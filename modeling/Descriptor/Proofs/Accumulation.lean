import Mathlib.Data.List.Basic
import Descriptor.SymbolTable
/-!
Lists built by appending. The first value of a known kind decides what is taken from then on; what
came before it is kept, and what is of another kind after it is lost. In a table, the values that are
appended to different names do not disturb each other.
-/
namespace Descriptor

namespace Keyed
variable {α β : Type}

theorem namesInserted (f : Keyed α → String × β → α) (k : Keyed α) (es : List (String × β)) :
    (es.foldl (fun k e => k.insert e.1 (f k e)) k).names =
      k.names ++ ((es.map Prod.fst).filter (· ∉ k.names)).eraseDups := by
  induction es generalizing k with
  | nil => simp
  | cons e es ih =>
    rw [List.foldl_cons, ih, insertNames, List.map_cons]
    split
    · rename_i old
      rw [List.filter_cons_of_neg (by simp [old])]
    · rename_i fresh
      have others : (es.map Prod.fst).filter (· ∉ k.names ++ [e.1]) =
          ((es.map Prod.fst).filter (· ∉ k.names)).filter (!· == e.1) := by
        rw [List.filter_filter]
        congr 1
        funext name
        by_cases here : name = e.1 <;> simp [here]
      rw [List.filter_cons_of_pos (by simp [fresh]), List.eraseDups_cons, others, List.append_assoc,
        List.singleton_append]

end Keyed

namespace Value

def adopted (vs : List Value) : Kind :=
  ((vs.find? (!·.isUnknown)).map kind).getD .unknown

def gathered (vs : List Value) : Value :=
  ⟨adopted vs, (vs.takeWhile isUnknown ++
    (vs.dropWhile isUnknown).filter (·.kind = adopted vs)).flatMap components⟩

section
variable {k l : Kind} {cs ds : List String}

theorem gatheredUnknown (cs : List String) (vs : List Value) :
    gathered (⟨.unknown, cs⟩ :: vs) = ⟨(gathered vs).kind, cs ++ (gathered vs).components⟩ := by
  have same : adopted (⟨.unknown, cs⟩ :: vs) = adopted vs := by simp [adopted, isUnknown]
  simp [gathered, same, isUnknown]

theorem gatheredKnown (known : k ≠ .unknown) (cs : List String) (vs : List Value) :
    gathered (⟨k, cs⟩ :: vs) = ⟨k, cs ++ (vs.filter (·.kind = k)).flatMap components⟩ := by
  simp [gathered, adopted, isUnknown, known]

theorem appendUnknown : append ⟨.unknown, cs⟩ ⟨l, ds⟩ = ⟨l, cs ++ ds⟩ := rfl

theorem appendAlike : append ⟨k, cs⟩ ⟨k, ds⟩ = ⟨k, cs ++ ds⟩ := by simp [append]

theorem appendOther (known : k ≠ .unknown) (other : l ≠ k) :
    append ⟨k, cs⟩ ⟨l, ds⟩ = ⟨k, cs⟩ := by
  simp [append, isUnknown, known, other.symm]

end

theorem gatheredMerged (v w : Value) (vs : List Value) :
    gathered (v.append w :: vs) = gathered (v :: w :: vs) := by
  obtain ⟨k, cs⟩ := v
  obtain ⟨l, ds⟩ := w
  by_cases unknown : k = .unknown
  · subst unknown
    rw [appendUnknown, gatheredUnknown]
    by_cases more : l = .unknown
    · subst more
      rw [gatheredUnknown, gatheredUnknown, List.append_assoc]
    · rw [gatheredKnown more, gatheredKnown more, List.append_assoc]
  · rw [gatheredKnown unknown]
    by_cases alike : l = k
    · subst alike
      rw [appendAlike, gatheredKnown unknown]
      simp
    · rw [appendOther unknown alike, gatheredKnown unknown]
      simp [alike]

theorem gatheredSingle (v : Value) : gathered [v] = v := by
  obtain ⟨k, cs⟩ := v
  by_cases unknown : k = .unknown
  · subst unknown
    rw [gatheredUnknown]
    simp [gathered, adopted]
  · rw [gatheredKnown unknown]
    simp

theorem appendsGathered (v : Value) (vs : List Value) : vs.foldl append v = gathered (v :: vs) := by
  induction vs generalizing v with
  | nil => exact (gatheredSingle v).symm
  | cons w vs ih => rw [List.foldl_cons, ih, gatheredMerged]

theorem componentsEach (v : Value) :
    (List.range v.size).map v.component = v.components.map (single v.kind) := by
  apply List.ext_getElem
  · simp [size]
  · intro i first second
    have inside : i < v.components.length := by simpa using second
    simp [component, inside]

theorem appendsAlike (kind : Kind) (front more : List String) :
    (more.map (single kind)).foldl append ⟨kind, front⟩ = ⟨kind, front ++ more⟩ := by
  induction more generalizing front with
  | nil => simp
  | cons s more ih =>
    rw [List.map_cons, List.foldl_cons, single, appendAlike]
    have rest := ih (front ++ [s])
    rwa [List.append_assoc] at rest

theorem componentsRebuild {v : Value} (some : v.components ≠ []) :
    ((List.range v.size).map v.component).foldl append unknown = v := by
  rw [componentsEach]
  obtain ⟨kind, components⟩ := v
  cases components with
  | nil => contradiction
  | cons s more => exact appendsAlike kind [s] more

end Value

namespace SymbolTable

def appendAll (t : SymbolTable) (es : List (String × Value)) : SymbolTable :=
  es.foldl (fun t e => SymbolTable.append t e.1 e.2) t

def own (name : String) (es : List (String × Value)) : List Value :=
  (es.filter (·.1 = name)).map Prod.snd

theorem appendAllCons (t : SymbolTable) (e : String × Value) (es : List (String × Value)) :
    appendAll t (e :: es) = appendAll (SymbolTable.append t e.1 e.2) es := rfl

def appended (before : Option Value) (v : Value) : Option Value :=
  some ((before.getD .unknown).append v)

theorem appendedAll (v : Value) (vs : List Value) :
    vs.foldl appended (some v) = some (vs.foldl Value.append v) := by
  induction vs generalizing v with
  | nil => rfl
  | cons w vs ih => exact ih (v.append w)

theorem appendAllOwn (t : SymbolTable) (es : List (String × Value)) (name : String) :
    (appendAll t es).get? name = (own name es).foldl appended (t.get? name) := by
  induction es generalizing t with
  | nil => rfl
  | cons e es ih =>
    rw [appendAllCons, ih, getAppend]
    by_cases here : e.1 = name
    · simp [own, here, appended]
    · simp [own, here, Ne.symm here]

theorem appendAllGet (t : SymbolTable) (es : List (String × Value)) (name : String) :
    (appendAll t es).get? name =
      if own name es = [] then t.get? name
      else some (Value.gathered ((t.get? name).getD .unknown :: own name es)) := by
  rw [appendAllOwn]
  cases own name es with
  | nil => rfl
  | cons v vs =>
    rw [List.foldl_cons, appended, appendedAll, if_neg (List.cons_ne_nil v vs),
      ← Value.appendsGathered]
    rfl

theorem appendAllNames (t : SymbolTable) (es : List (String × Value)) :
    (appendAll t es).names = t.names ++ ((es.map Prod.fst).filter (· ∉ t.names)).eraseDups :=
  Keyed.namesInserted (fun (t : SymbolTable) (e : String × Value) =>
    ((t.get? e.1).getD .unknown).append e.2) t es

theorem appendAllElsewhere (t : SymbolTable) {es other : List (String × Value)} {name : String}
    (same : own name other = own name es) :
    (appendAll t other).get? name = (appendAll t es).get? name := by
  rw [appendAllGet, appendAllGet, same]

theorem appendsAccumulate :
    (∀ v vs, vs.foldl Value.append v = Value.gathered (v :: vs)) ∧
    (∀ t es,
      (∀ name, (appendAll t es).get? name =
        if own name es = [] then t.get? name
        else some (Value.gathered ((t.get? name).getD .unknown :: own name es))) ∧
      (∀ other name, own name other = own name es →
        (appendAll t other).get? name = (appendAll t es).get? name) ∧
      (appendAll t es).names = t.names ++ ((es.map Prod.fst).filter (· ∉ t.names)).eraseDups) ∧
    ∀ v : Value, v.components ≠ [] →
      ((List.range v.size).map v.component).foldl Value.append .unknown = v := by
  refine ⟨Value.appendsGathered, ?_, ?_⟩
  · intro t es
    exact ⟨appendAllGet t es, fun other name => appendAllElsewhere t, appendAllNames t es⟩
  · intro v some
    exact Value.componentsRebuild some

def started : SymbolTable := .ofList [("a", ⟨.unknown, ["0"]⟩)]

def interleaved : List (String × Value) :=
  [("b", .int 1), ("a", .string "x"), ("b", .string "lost"), ("a", ⟨.unknown, ["lost"]⟩),
    ("b", .int 2), ("a", .string "y")]

theorem appendsAccumulateInterleaved :
    (appendAll started interleaved).get? "a" = some ⟨.string, ["0", "x", "y"]⟩ ∧
      (appendAll started (interleaved.filter (·.1 = "b"))).get? "b" =
        (appendAll started interleaved).get? "b" ∧
      (appendAll started interleaved).names = ["a", "b"] ∧
      [Value.single .int "1", .single .int "2"].foldl Value.append .unknown = ⟨.int, ["1", "2"]⟩ := by
  obtain ⟨-, tables, rebuilt⟩ := appendsAccumulate
  obtain ⟨values, elsewhere, names⟩ := tables started interleaved
  exact ⟨(values "a").trans (by decide +kernel), elsewhere _ "b" (by decide +kernel),
    names.trans (by decide +kernel), rebuilt ⟨.int, ["1", "2"]⟩ (by decide)⟩

end SymbolTable
end Descriptor
