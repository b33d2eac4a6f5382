/-!
Finite maps from names that remember the order in which the names came in. Giving a name that is
there a new value leaves it in its place, and taking a name out leaves the others in theirs.
-/
namespace Descriptor

structure Keyed (α : Type) where
  entries : List (String × α)
  distinct : (entries.map Prod.fst).Nodup

namespace Keyed

variable {α : Type}

def empty : Keyed α := ⟨[], List.nodup_nil⟩

instance : Inhabited (Keyed α) := ⟨empty⟩

def names (k : Keyed α) : List String := k.entries.map Prod.fst

def size (k : Keyed α) : Nat := k.entries.length

def get? (k : Keyed α) (name : String) : Option α := k.entries.lookup name

def contains (k : Keyed α) (name : String) : Bool := (k.get? name).isSome

def put (name : String) (a : α) : List (String × α) → List (String × α)
  | [] => [(name, a)]
  | e :: rest => if e.1 = name then (name, a) :: rest else e :: put name a rest

theorem putNames (name : String) (a : α) (l : List (String × α)) :
    (put name a l).map Prod.fst =
      if name ∈ l.map Prod.fst then l.map Prod.fst else l.map Prod.fst ++ [name] := by
  induction l with
  | nil => simp [put]
  | cons e rest ih =>
    by_cases h : e.1 = name
    · simp [put, h]
    · simp only [put, h, if_false, List.map_cons, ih, List.mem_cons]
      by_cases hm : name ∈ rest.map Prod.fst <;> simp [hm, Ne.symm h]

theorem putDistinct {l : List (String × α)} (h : (l.map Prod.fst).Nodup) (name : String) (a : α) :
    ((put name a l).map Prod.fst).Nodup := by
  rw [putNames]
  split
  · exact h
  · rename_i hm
    exact List.nodup_append.2
      ⟨h, by simp, fun x hx y hy => by simp at hy; subst hy; exact fun e => hm (e ▸ hx)⟩

def insert (k : Keyed α) (name : String) (a : α) : Keyed α :=
  ⟨put name a k.entries, putDistinct k.distinct name a⟩

def erase (k : Keyed α) (name : String) : Keyed α :=
  ⟨k.entries.filter (·.1 != name), k.distinct.sublist (List.filter_sublist.map _)⟩

theorem lookupCons (n : String) (e : String × α) (l : List (String × α)) :
    (e :: l).lookup n = if n = e.1 then some e.2 else l.lookup n := by
  obtain ⟨name, a⟩ := e
  by_cases h : n = name
  · subst h; simp
  · simp only [List.lookup_cons, beq_eq_false_iff_ne.2 h, h, if_false]

def exchangeIn (name : String) (a : α) : List (String × α) → Option α × List (String × α)
  | [] => (none, [(name, a)])
  | e :: rest =>
    if e.1 = name then (some e.2, (name, a) :: rest)
    else
      let (before, rest) := exchangeIn name a rest
      (before, e :: rest)

def removeFrom (name : String) : List (String × α) → Option α × List (String × α)
  | [] => (none, [])
  | e :: rest =>
    if e.1 = name then (some e.2, rest)
    else
      let (before, rest) := removeFrom name rest
      (before, e :: rest)

theorem exchangeInPut (name : String) (a : α) (l : List (String × α)) :
    exchangeIn name a l = (l.lookup name, put name a l) := by
  induction l with
  | nil => rfl
  | cons e rest ih =>
    rw [exchangeIn, put, lookupCons]
    by_cases h : e.1 = name
    · simp [h]
    · simp [h, Ne.symm h, ih]

theorem removeFromFilter {l : List (String × α)} (distinct : (l.map Prod.fst).Nodup) (name : String) :
    removeFrom name l = (l.lookup name, l.filter (·.1 != name)) := by
  induction l with
  | nil => rfl
  | cons e rest ih =>
    obtain ⟨fresh, others⟩ := List.nodup_cons.mp distinct
    rw [removeFrom, lookupCons, ih others]
    by_cases h : e.1 = name
    · subst h
      have kept : rest.filter (·.1 != e.1) = rest :=
        List.filter_eq_self.2 fun f mem => bne_iff_ne.2 fun same =>
          fresh (List.mem_map.2 ⟨f, mem, same⟩)
      simp [kept]
    · simp [h, Ne.symm h]

theorem exchangeInDistinct {l : List (String × α)} (distinct : (l.map Prod.fst).Nodup)
    (name : String) (a : α) : ((exchangeIn name a l).2.map Prod.fst).Nodup := by
  rw [exchangeInPut]
  exact putDistinct distinct name a

theorem removeFromDistinct {l : List (String × α)} (distinct : (l.map Prod.fst).Nodup)
    (name : String) : ((removeFrom name l).2.map Prod.fst).Nodup := by
  rw [removeFromFilter distinct]
  exact distinct.sublist (List.filter_sublist.map _)

def exchange (k : Keyed α) (name : String) (a : α) : Option α × Keyed α :=
  let r := exchangeIn name a k.entries
  (r.1, ⟨r.2, exchangeInDistinct k.distinct name a⟩)

def remove (k : Keyed α) (name : String) : Option α × Keyed α :=
  let r := removeFrom name k.entries
  (r.1, ⟨r.2, removeFromDistinct k.distinct name⟩)

def insertAll (k : Keyed α) (entries : List (String × α)) : Keyed α :=
  entries.foldl (fun k e => k.insert e.1 e.2) k

def ofList (entries : List (String × α)) : Keyed α :=
  empty.insertAll entries

def same [DecidableEq α] (k l : Keyed α) : Bool :=
  k.size = l.size && k.entries.all fun e => l.get? e.1 = some e.2

theorem insertNames (k : Keyed α) (name : String) (a : α) :
    (k.insert name a).names = if name ∈ k.names then k.names else k.names ++ [name] :=
  putNames name a k.entries

theorem lookupPut (name other : String) (a : α) (l : List (String × α)) :
    (put name a l).lookup other = if other = name then some a else l.lookup other := by
  induction l with
  | nil => simp [put, lookupCons]
  | cons e rest ih =>
    by_cases h : e.1 = name
    · simp only [put, h, if_true, lookupCons]
      split <;> rfl
    · simp only [put, h, if_false, lookupCons, ih]
      by_cases ho : other = name
      · subst ho; simp [Ne.symm h]
      · simp [ho]

theorem lookupFilter (name other : String) (l : List (String × α)) :
    (l.filter (·.1 != name)).lookup other = if other = name then none else l.lookup other := by
  induction l with
  | nil => simp
  | cons e rest ih =>
    by_cases h : e.1 = name
    · rw [List.filter_cons, h, if_neg (by simp), ih, lookupCons, h]
      split <;> rfl
    · by_cases ho : other = name
      · subst ho; simp [h, Ne.symm h, lookupCons, ih]
      · simp [h, lookupCons, ho, ih]

theorem lookupIff {l : List (String × α)} (distinct : (l.map Prod.fst).Nodup)
    {name : String} {a : α} : l.lookup name = some a ↔ (name, a) ∈ l := by
  induction l with
  | nil => simp
  | cons e rest ih =>
    obtain ⟨first, b⟩ := e
    obtain ⟨fresh, others⟩ := List.nodup_cons.mp distinct
    rw [lookupCons, List.mem_cons]
    by_cases h : name = first
    · subst h
      have absent : (name, a) ∉ rest := fun mem => fresh (List.mem_map.mpr ⟨_, mem, rfl⟩)
      simp [absent, eq_comm]
    · simp [h, ih others]

theorem getInsert (k : Keyed α) (name other : String) (a : α) :
    (k.insert name a).get? other = if other = name then some a else k.get? other :=
  lookupPut name other a k.entries

theorem getErase (k : Keyed α) (name other : String) :
    (k.erase name).get? other = if other = name then none else k.get? other :=
  lookupFilter name other k.entries

theorem exchangeInsert (k : Keyed α) (name : String) (a : α) :
    k.exchange name a = (k.get? name, k.insert name a) := by
  simp only [exchange, exchangeInPut, get?, insert]

theorem removeErase (k : Keyed α) (name : String) : k.remove name = (k.get? name, k.erase name) := by
  simp only [remove, removeFromFilter k.distinct, get?, erase]

theorem getIff (k : Keyed α) {name : String} {a : α} :
    k.get? name = some a ↔ (name, a) ∈ k.entries :=
  lookupIff k.distinct

theorem getOfPerm {k l : Keyed α} (same : k.entries.Perm l.entries) (name : String) :
    k.get? name = l.get? name := by
  apply Option.ext
  intro a
  rw [getIff, getIff, same.mem_iff]

theorem getEmpty (name : String) : (empty : Keyed α).get? name = none := rfl

end Keyed
end Descriptor
