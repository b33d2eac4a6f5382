import Mathlib.Data.List.DropRight
import Mathlib.Data.Set.Card
import Descriptor.SymbolTable
/-!
Tables of symbols and how they came about. What a table holds for a name follows from what was done
to that name and from nothing else, and the names stand in the order in which they came in for the
last time.
-/
namespace Descriptor

namespace Keyed
variable {α : Type}

theorem memNamesIff (k : Keyed α) (name : String) : name ∈ k.names ↔ ∃ a, k.get? name = some a := by
  simp only [names, List.mem_map, getIff]
  constructor
  · rintro ⟨⟨_, a⟩, mem, rfl⟩
    exact ⟨a, mem⟩
  · rintro ⟨a, mem⟩
    exact ⟨(name, a), mem, rfl⟩

theorem containsIff (k : Keyed α) (name : String) : k.contains name ↔ name ∈ k.names := by
  rw [contains, Option.isSome_iff_exists, memNamesIff]

theorem sizeNames (k : Keyed α) : k.size = k.names.length :=
  List.length_map Prod.fst |>.symm

theorem sizeOfNames (k : Keyed α) : k.size = {name | k.contains name}.ncard := by
  have names : {name | k.contains name} = k.names.toFinset := by
    ext name
    simp [containsIff]
  have nodup : k.names.Nodup := k.distinct
  rw [names, Set.ncard_coe_finset, List.toFinset_card_of_nodup nodup, sizeNames]

theorem namesErase (k : Keyed α) (name : String) :
    (k.erase name).names = k.names.filter (· ≠ name) := by
  simp only [names, erase, List.filter_map]
  congr 2
  funext e
  by_cases here : e.1 = name <;> simp [here]

theorem sameIff [DecidableEq α] (k l : Keyed α) : k.same l ↔ ∀ name, k.get? name = l.get? name := by
  have found : k.same l ↔ k.size = l.size ∧ ∀ name a, k.get? name = some a → l.get? name = some a := by
    simp [same, getIff]
  rw [found]
  constructor
  · rintro ⟨sizes, entries⟩ name
    have within : k.names ⊆ l.names := by
      intro other mem
      obtain ⟨a, here⟩ := (k.memNamesIff other).mp mem
      exact (l.memNamesIff other).mpr ⟨a, entries other a here⟩
    have lengths : l.names.length ≤ k.names.length := by
      rw [← sizeNames, ← sizeNames, sizes]
    -- All names of the one are names of the other, which has no place for more.
    have perm := (List.subperm_of_subset k.distinct within).perm_of_length_le lengths
    cases here : k.get? name with
    | some a => exact (entries name a here).symm
    | none =>
      cases there : l.get? name with
      | none => rfl
      | some b =>
        have mem := perm.mem_iff.mpr ((l.memNamesIff name).mpr ⟨b, there⟩)
        obtain ⟨a, found⟩ := (k.memNamesIff name).mp mem
        rw [here] at found
        contradiction
  · intro agree
    have perm : k.names.Perm l.names := by
      refine (List.perm_ext_iff_of_nodup k.distinct l.distinct).mpr fun name => ?_
      change name ∈ k.names ↔ name ∈ l.names
      rw [memNamesIff, memNamesIff, agree]
    refine ⟨by rw [sizeNames, sizeNames, perm.length_eq], ?_⟩
    intro name a here
    rwa [← agree]

end Keyed

namespace SymbolTable

namespace Change

def effect (name : String) : Change → Option Value → Option Value
  | .insert other v, before => if name = other then some v else before
  | .append other v, before =>
    if name = other then some ((before.getD .unknown).append v) else before
  | .remove other, before => if name = other then none else before
  | .clear, _ => none

def order : Change → List String → List String
  | .insert name _, names | .append name _, names => if name ∈ names then names else names ++ [name]
  | .remove name, names => names.filter (· ≠ name)
  | .clear, _ => []

def defines (name : String) : Change → Bool
  | .insert other _ | .append other _ => name = other
  | _ => false

def ends (name : String) : Change → Bool
  | .remove other => name = other
  | .clear => true
  | _ => false

def concerns (name : String) (c : Change) : Bool := c.defines name || c.ends name

theorem effectElsewhere {name : String} {c : Change} (elsewhere : c.concerns name = false)
    (before : Option Value) : c.effect name before = before := by
  cases c <;> simp_all [concerns, defines, ends, effect]

end Change

theorem changeGet (t : SymbolTable) (c : Change) (name : String) :
    (change t c).2.get? name = c.effect name (t.get? name) := by
  cases c with
  | insert other v =>
    rw [change, Keyed.exchangeInsert]
    exact Keyed.getInsert ..
  | append other v =>
    rw [change, SymbolTable.getAppend]
    by_cases here : name = other
    · subst here
      rfl
    · simp [Change.effect, here]
  | remove other =>
    rw [change, Keyed.removeErase]
    exact Keyed.getErase ..
  | clear => rfl

theorem changeNames (t : SymbolTable) (c : Change) :
    (change t c).2.names = c.order t.names := by
  cases c with
  | insert name v =>
    rw [change, Keyed.exchangeInsert]
    exact Keyed.insertNames ..
  | append name v => exact Keyed.insertNames ..
  | remove name =>
    rw [change, Keyed.removeErase]
    exact Keyed.namesErase ..
  | clear => rfl

theorem changesGet (t : SymbolTable) (cs : List Change) (name : String) :
    (changes t cs).get? name = cs.foldl (fun before c => c.effect name before) (t.get? name) := by
  induction cs generalizing t with
  | nil => rfl
  | cons c cs ih =>
    rw [List.foldl_cons, ← changeGet]
    exact ih _

def concerning (name : String) (h : List Change) : List Change := h.filter (·.concerns name)

theorem changesConcerning (t : SymbolTable) (h : List Change) (name : String) :
    (changes t (concerning name h)).get? name = (changes t h).get? name := by
  rw [changesGet, changesGet, concerning]
  generalize t.get? name = before
  induction h generalizing before with
  | nil => rfl
  | cons c h ih =>
    cases here : c.concerns name with
    | true =>
      rw [List.filter_cons_of_pos here]
      exact ih _
    | false =>
      rw [List.filter_cons_of_neg (by simp [here]), List.foldl_cons, Change.effectElsewhere here]
      exact ih _

def Step.changes : Step → List Change
  | .single c => [c]
  | .extend entries => entries.map fun e => .insert e.1 e.2

def history (ss : List Step) : List Change := ss.flatMap Step.changes

theorem stepChanges (t : SymbolTable) (s : Step) : (step t s).2 = changes t s.changes := by
  cases s with
  | single c => rfl
  | extend entries =>
    simp only [step, changes, Step.changes, List.foldl_map, change, Keyed.exchangeInsert]
    rfl

theorem stepsChanges (t : SymbolTable) (ss : List Step) : steps t ss = changes t (history ss) := by
  induction ss generalizing t with
  | nil => rfl
  | cons s ss ih =>
    have more : steps t (s :: ss) = steps (step t s).2 ss := rfl
    rw [more, ih, stepChanges]
    simp [changes, history, List.foldl_append]

def since (name : String) (h : List Change) : List Change :=
  h.rtakeWhile (!·.ends name)

def createdAt (name : String) (h : List Change) : Option Nat :=
  ((since name h).findIdx? (·.defines name)).map (h.length - (since name h).length + ·)

theorem sinceLast (name : String) (h : List Change) (c : Change) :
    since name (h ++ [c]) = if c.ends name then [] else since name h ++ [c] := by
  rw [since, List.rtakeWhile_concat]
  cases c.ends name <;> rfl

theorem createdAtLast (name : String) (h : List Change) (c : Change) :
    createdAt name (h ++ [c]) =
      if c.ends name then none
      else (createdAt name h).or (if c.defines name then some h.length else none) := by
  have short : (since name h).length ≤ h.length := (List.rtakeWhile_suffix _ _).length_le
  unfold createdAt
  rw [sinceLast]
  split
  · rfl
  · have offset : (h ++ [c]).length - (since name h ++ [c]).length =
        h.length - (since name h).length := by simp
    have end_ : h.length - (since name h).length + (since name h).length = h.length := by omega
    rw [offset, List.findIdx?_append, Option.map_or, List.findIdx?_singleton]
    cases c.defines name with
    | true => simp only [if_true, Option.map_some, Nat.zero_add, end_]
    | false => rfl

theorem createdAtLess {name : String} {h : List Change} {i : Nat} (created : createdAt name h = some i) :
    i < h.length := by
  induction h using List.reverseRecOn with
  | nil => cases created
  | append_singleton h c ih =>
    rw [createdAtLast] at created
    split at created
    · cases created
    · cases before : createdAt name h with
      | some j =>
        rw [before] at created
        cases created
        exact Nat.lt_of_lt_of_le (ih before) (by simp)
      | none =>
        rw [before] at created
        split at created
        · cases created
          simp
        · cases created

def Earlier (h : List Change) (m n : String) : Prop :=
  ∃ i j, createdAt m h = some i ∧ createdAt n h = some j ∧ i < j

structure Listed (h : List Change) (names : List String) : Prop where
  present : ∀ name, name ∈ names ↔ ∃ i, createdAt name h = some i
  inOrder : names.Pairwise (Earlier h)

theorem listedNil : Listed [] [] where
  present name := by simp [createdAt, since]
  inOrder := .nil

theorem createdAtKept {name : String} {h : List Change} {c : Change} {i : Nat}
    (stays : c.ends name = false) (created : createdAt name h = some i) :
    createdAt name (h ++ [c]) = some i := by
  rw [createdAtLast, created, stays]
  rfl

theorem earlierKept {h : List Change} {c : Change} {m n : String} (first : c.ends m = false)
    (second : c.ends n = false) (earlier : Earlier h m n) : Earlier (h ++ [c]) m n := by
  obtain ⟨i, j, created, created', less⟩ := earlier
  exact ⟨i, j, createdAtKept first created, createdAtKept second created', less⟩

theorem listedDefining {h : List Change} {names : List String} (listed : Listed h names) {c : Change}
    {name : String} (one : ∀ m, c.defines m = decide (m = name)) (stays : ∀ m, c.ends m = false) :
    Listed (h ++ [c]) (if name ∈ names then names else names ++ [name]) := by
  have kept : names.Pairwise (Earlier (h ++ [c])) :=
    listed.inOrder.imp fun earlier => earlierKept (stays _) (stays _) earlier
  constructor
  case present =>
    intro m
    have there : m ∈ (if name ∈ names then names else names ++ [name]) ↔ m ∈ names ∨ m = name := by
      split
      · rename_i old
        exact ⟨.inl, fun mem => mem.elim id fun same => same ▸ old⟩
      · simp
    rw [there, listed.present, createdAtLast, stays, one]
    cases createdAt m h <;> simp
  case inOrder =>
    split
    · exact kept
    · rename_i fresh
      refine List.pairwise_append.mpr ⟨kept, List.pairwise_singleton .., ?_⟩
      intro m mem n last
      obtain rfl : n = name := List.mem_singleton.mp last
      obtain ⟨i, created⟩ := (listed.present m).mp mem
      refine ⟨i, h.length, createdAtKept (stays m) created, ?_, createdAtLess created⟩
      have absent : createdAt n h = none := by
        cases found : createdAt n h with
        | none => rfl
        | some j => exact absurd ((listed.present n).mpr ⟨j, found⟩) fresh
      rw [createdAtLast, absent, stays, one]
      simp

theorem listedEnding {h : List Change} {names : List String} (listed : Listed h names) {c : Change}
    (nothing : ∀ m, c.defines m = false) :
    Listed (h ++ [c]) (names.filter fun m => !c.ends m) := by
  constructor
  case present =>
    intro m
    rw [createdAtLast, nothing, List.mem_filter, listed.present]
    cases c.ends m <;> simp
  case inOrder =>
    have left := listed.inOrder.filter fun m => !c.ends m
    refine left.imp_of_mem ?_
    intro m n mem mem' earlier
    have stays {m : String} (mem : m ∈ names.filter fun m => !c.ends m) : c.ends m = false := by
      simpa using (List.mem_filter.mp mem).2
    exact earlierKept (stays mem) (stays mem') earlier

theorem listedChange {h : List Change} {names : List String} (listed : Listed h names) (c : Change) :
    Listed (h ++ [c]) (c.order names) := by
  cases c with
  | insert name v => exact listedDefining listed (fun _ => rfl) fun _ => rfl
  | append name v => exact listedDefining listed (fun _ => rfl) fun _ => rfl
  | remove name =>
    have left := listedEnding listed (c := .remove name) fun _ => rfl
    simpa [Change.ends, Change.order] using left
  | clear =>
    have left := listedEnding listed (c := .clear) fun _ => rfl
    simpa [Change.ends, Change.order] using left

theorem changesListed (h : List Change) : Listed h (changes .empty h).names := by
  induction h using List.reverseRecOn with
  | nil => exact listedNil
  | append_singleton h c ih =>
    have last : changes .empty (h ++ [c]) = (change (changes .empty h) c).2 := by
      simp [changes, List.foldl_append]
    rw [last, changeNames]
    exact listedChange ih c

def built (ss : List Step) : SymbolTable := steps .empty ss

structure KeepsHistory (ss : List Step) : Prop where
  distinct : (built ss).names.Nodup
  byName : ∀ other name, concerning name (history other) = concerning name (history ss) →
    (built other).get? name = (built ss).get? name ∧
      (built other).contains name = (built ss).contains name
  answers : ∀ name v, (step (built ss) (.single (.insert name v))).1 = (built ss).get? name ∧
    (step (built ss) (.single (.remove name))).1 = (built ss).get? name
  listed : Listed (history ss) (built ss).names
  present : ∀ name, (built ss).contains name ↔ name ∈ (built ss).names
  redefined : ∀ name ∈ (built ss).names, ∀ v,
    (step (built ss) (.single (.insert name v))).2.names = (built ss).names ∧
      (step (built ss) (.single (.append name v))).2.names = (built ss).names
  removed : ∀ name, (step (built ss) (.single (.remove name))).2.names =
    (built ss).names.filter (· ≠ name)
  size : (built ss).size = {name | (built ss).contains name}.ncard
  equal : ∀ other, (built ss).same (built other) ↔
    ∀ name, (built ss).get? name = (built other).get? name

theorem tablesKeepHistory (ss : List Step) : KeepsHistory ss where
  distinct := (built ss).distinct
  byName := by
    intro other name same
    have read : (built other).get? name = (built ss).get? name := by
      rw [built, built, stepsChanges, stepsChanges, ← changesConcerning, same, changesConcerning]
    exact ⟨read, by rw [Keyed.contains, Keyed.contains, read]⟩
  answers := by
    intro name v
    simp only [step, change, Keyed.exchangeInsert, Keyed.removeErase, and_self]
  listed := by
    rw [built, stepsChanges]
    exact changesListed (history ss)
  present := (built ss).containsIff
  redefined := by
    intro name mem v
    simp only [step, changeNames, Change.order, if_pos mem, and_self]
  removed name := changeNames (built ss) (.remove name)
  size := (built ss).sizeOfNames
  equal other := (built ss).sameIff (built other)

example : (built [.extend [("b", .string "1"), ("a", .int 2), ("c", .int 3)],
    .single (.insert "a" (.int 4)), .single (.remove "b"), .single (.append "b" (.int 5))]).names =
      ["a", "c", "b"] := by decide +kernel

end SymbolTable
end Descriptor
