import Descriptor.Value.Relation
/-!
What the six relations say about values of any kinds, with any text in them. Every reading of texts
is an order of its own, and the relations are consistent because each two values are read alike.
They are transitive only where all of three values are read alike.

Nothing of this rests on how floating point numbers are written. A reader for them may take any text
for any number, or for a NaN, which stands in no order to anything: no reading of a value ends in a
NaN.
-/
namespace Descriptor
open Std (TransCmp OrientedCmp ReflCmp)

def Binary64.order? (x y : Binary64) : Option Ordering :=
  if x.isNaN || y.isNaN then none else some (x.order y)

namespace Relation

def holdsOf : Relation → Option Ordering → Bool
  | r, some o => r.holds o
  | ne, none => true
  | _, none => false

theorem holdsNe (o : Ordering) : ne.holds o = !eq.holds o := by cases o <;> rfl

theorem holdsGe (o : Ordering) : ge.holds o = !lt.holds o := by cases o <;> rfl

theorem holdsLe (o : Ordering) : le.holds o = !gt.holds o := by cases o <;> rfl

theorem gtSwap (o : Ordering) : gt.holds o.swap = lt.holds o := by cases o <;> rfl

theorem eqSwap (o : Ordering) : eq.holds o.swap = eq.holds o := by cases o <;> rfl

theorem holdsSingle (o : Ordering) : [lt, eq, gt].countP (holds · o) = 1 := by cases o <;> rfl

section
variable {α : Type} {cmp : α → α → Ordering} [TransCmp cmp] {a b c : α}

theorem ltTrans (one : lt.holds (cmp a b)) (more : lt.holds (cmp b c)) : lt.holds (cmp a c) :=
  Ordering.isLT_iff_eq_lt.mpr
    (TransCmp.lt_trans (Ordering.isLT_iff_eq_lt.mp one) (Ordering.isLT_iff_eq_lt.mp more))

theorem leTrans (one : le.holds (cmp a b)) (more : le.holds (cmp b c)) : le.holds (cmp a c) :=
  TransCmp.isLE_trans one more

theorem eqTrans (one : eq.holds (cmp a b)) (more : eq.holds (cmp b c)) : eq.holds (cmp a c) :=
  Ordering.isEq_iff_eq_eq.mpr
    (TransCmp.eq_trans (Ordering.isEq_iff_eq_eq.mp one) (Ordering.isEq_iff_eq_eq.mp more))

theorem ltLeTrans (one : lt.holds (cmp a b)) (more : le.holds (cmp b c)) : lt.holds (cmp a c) :=
  Ordering.isLT_iff_eq_lt.mpr
    (TransCmp.lt_of_lt_of_isLE (Ordering.isLT_iff_eq_lt.mp one) more)

theorem leLtTrans (one : le.holds (cmp a b)) (more : lt.holds (cmp b c)) : lt.holds (cmp a c) :=
  Ordering.isLT_iff_eq_lt.mpr
    (TransCmp.lt_of_isLE_of_lt one (Ordering.isLT_iff_eq_lt.mp more))

end
end Relation

theorem transAlong {α β : Type} (cmp : β → β → Ordering) [TransCmp cmp] (f : α → β) :
    TransCmp fun a b => cmp (f a) (f b) where
  eq_swap := OrientedCmp.eq_swap
  isLE_trans := TransCmp.isLE_trans

instance : TransCmp Version.order :=
  inferInstanceAs (TransCmp (compareLex (compareOn fun v : Version => v.major.toNat)
    (compareLex (compareOn fun v => v.minor.toNat) (compareOn fun v => v.patch.toNat))))

instance : TransCmp Binary64.order := transAlong compare Binary64.rank

def Kind.rank : Kind → Nat
  | version => 4
  | float => 3
  | int => 2
  | bool => 1
  | _ => 0

namespace Value
variable (reader : List Char → Option Binary64)

namespace Reading

def order? : Reading → String → String → Option Ordering
  | float, s, t =>
    (Binary64.leadingBy reader s.toList).order? (Binary64.leadingBy reader t.toList)
  | reading, s, t => some (reading.order s t)

def orderBy : Reading → String → String → Ordering
  | float, s, t =>
    (Binary64.leadingBy reader s.toList).order (Binary64.leadingBy reader t.toList)
  | reading, s, t => reading.order s t

theorem orderSome (reading : Reading) (s t : String) :
    reading.order? reader s t = some (reading.orderBy reader s t) := by
  cases reading with
  | float => simp [order?, orderBy, Binary64.order?, Binary64.leadingByNumber]
  | version => rfl
  | int => rfl
  | bool => rfl
  | text => rfl

instance (reading : Reading) : TransCmp (reading.orderBy reader) := by
  cases reading with
  | version => exact transAlong Version.order fun s : String => Version.leading s.toList
  | float => exact transAlong Binary64.order fun s : String => Binary64.leadingBy reader s.toList
  | int => exact transAlong compare fun s : String => Decimal.leading s.toList
  | bool => exact transAlong compare fun s : String => s == "true"
  | text => exact transAlong compare fun s : String => s

theorem orderSelf (reading : Reading) (s : String) : reading.orderBy reader s s = .eq :=
  ReflCmp.compare_self

theorem orderSwap (reading : Reading) (s t : String) :
    reading.orderBy reader s t = (reading.orderBy reader t s).swap :=
  OrientedCmp.eq_swap

def ranked : Nat → Bool → Reading
  | 4, _ => version
  | 3, _ => float
  | 2, _ => int
  | 1, false => bool
  | _, _ => text

theorem betweenRanked (v w : Value) (equality : Bool) :
    between v w equality = ranked (max v.kind.rank w.kind.rank) equality := by
  obtain ⟨k, -⟩ := v
  obtain ⟨l, -⟩ := w
  cases k <;> cases l <;> cases equality <;> rfl

theorem rankedAlike {n : Nat} (other : n ≠ 1) : ranked n true = ranked n false := by
  match n with
  | 0 => rfl
  | 1 => contradiction
  | 2 => rfl
  | 3 => rfl
  | 4 => rfl
  | n + 5 => rfl

theorem equalInOrder {n : Nat} {s t : String} (equal : (ranked n true).orderBy reader s t = .eq) :
    (ranked n false).orderBy reader s t = .eq := by
  by_cases truth : n = 1
  · subst truth
    obtain rfl : s = t := Std.LawfulEqOrd.eq_of_compare equal
    exact orderSelf reader bool s
  · rwa [← rankedAlike truth]

end Reading

def relateBy (v : Value) (r : Relation) (w : Value) : Bool :=
  r.holdsOf ((Reading.between v w r.isEquality).order? reader v.text w.text)

theorem relateByHolds (v w : Value) (r : Relation) :
    v.relateBy reader r w = r.holds ((Reading.ranked (max v.kind.rank w.kind.rank)
      r.isEquality).orderBy reader v.text w.text) := by
  rw [relateBy, Reading.orderSome, Reading.betweenRanked]
  rfl

theorem relateByRead : relateBy Binary64.read? = relate := by
  funext v r w
  rw [relateByHolds, relate, Reading.betweenRanked]
  cases Reading.ranked (max v.kind.rank w.kind.rank) r.isEquality <;> rfl

def OrderedByTruth (v w : Value) : Prop :=
  (v.kind = .bool ∨ w.kind = .bool) ∧ ∀ k ∈ [Kind.version, .float, .int], v.kind ≠ k ∧ w.kind ≠ k
instance (v w) : Decidable (OrderedByTruth v w) := by unfold OrderedByTruth; infer_instance

theorem truthOfRank (v w : Value) : max v.kind.rank w.kind.rank = 1 → OrderedByTruth v w := by
  obtain ⟨k, -⟩ := v
  obtain ⟨l, -⟩ := w
  cases k <;> cases l <;> simp [OrderedByTruth, Kind.rank]

structure Consistent (related : Value → Relation → Value → Bool) (v w : Value) : Prop where
  ne : related v .ne w = !related v .eq w
  gt : related v .gt w = related w .lt v
  ge : related v .ge w = !related v .lt w
  le : related v .le w = !related v .gt w
  symmetric : related v .eq w = related w .eq v
  reflexive : related v .eq v
  irreflexive : related v .lt v = false
  exclusive : related v .eq w → related v .lt w = false ∧ related v .gt w = false
  single : ¬ OrderedByTruth v w → [Relation.lt, .eq, .gt].countP (related v · w) = 1

theorem relateByConsistent (v w : Value) : Consistent (relateBy reader) v w where
  ne := by
    rw [relateByHolds, relateByHolds]
    exact Relation.holdsNe _
  gt := by
    rw [relateByHolds, relateByHolds, Nat.max_comm, Reading.orderSwap]
    exact Relation.gtSwap _
  ge := by
    rw [relateByHolds, relateByHolds]
    exact Relation.holdsGe _
  le := by
    rw [relateByHolds, relateByHolds]
    exact Relation.holdsLe _
  symmetric := by
    rw [relateByHolds, relateByHolds, Nat.max_comm, Reading.orderSwap]
    exact Relation.eqSwap _
  reflexive := by
    rw [relateByHolds, Reading.orderSelf]
    rfl
  irreflexive := by
    rw [relateByHolds, Reading.orderSelf]
    rfl
  exclusive := by
    intro equal
    rw [relateByHolds] at equal
    have same := Reading.equalInOrder reader (Ordering.isEq_iff_eq_eq.mp equal)
    simp only [relateByHolds, Relation.isEquality, same]
    exact ⟨rfl, rfl⟩
  single := by
    intro untrue
    have alike := Reading.rankedAlike fun one => untrue (truthOfRank v w one)
    have all (r : Relation) : v.relateBy reader r w = r.holds ((Reading.ranked
        (max v.kind.rank w.kind.rank) false).orderBy reader v.text w.text) := by
      rw [relateByHolds]
      cases r <;> simp only [Relation.isEquality, alike]
    simp only [all]
    exact Relation.holdsSingle _

theorem relationsConsistent (v w : Value) :
    Consistent relate v w ∧ ∀ reader, Consistent (relateBy reader) v w := by
  refine ⟨?_, fun reader => relateByConsistent reader v w⟩
  rw [← relateByRead]
  exact relateByConsistent _ v w

/- Ordered by truth, two values that are both untrue need not be equal. -/
example : [Relation.lt, .eq, .gt].countP (relate (single .bool "TRUE") · (string "yes")) = 0 := by
  decide +kernel

structure Transitive (related : Value → Relation → Value → Bool) (u v w : Value) : Prop where
  lt : related u .lt v → related v .lt w → related u .lt w
  le : related u .le v → related v .le w → related u .le w
  eq : related u .eq v → related v .eq w → related u .eq w
  ltLe : related u .lt v → related v .le w → related u .lt w
  leLt : related u .le v → related v .lt w → related u .lt w

/- At least two of the values have the highest rank among them. -/
def OneRankDecides (u v w : Value) : Prop :=
  2 ≤ [u, v, w].countP fun x => x.kind.rank = max u.kind.rank (max v.kind.rank w.kind.rank)
instance (u v w) : Decidable (OneRankDecides u v w) := by unfold OneRankDecides; infer_instance

theorem rankShared {u v w : Value} (decides : OneRankDecides u v w) :
    max v.kind.rank w.kind.rank = max u.kind.rank v.kind.rank ∧
      max u.kind.rank w.kind.rank = max u.kind.rank v.kind.rank := by
  unfold OneRankDecides at decides
  simp only [List.countP_cons, List.countP_nil, decide_eq_true_eq] at decides
  split at decides <;> split at decides <;> split at decides <;> omega

theorem relateByTransitive {u v w : Value} (decides : OneRankDecides u v w) :
    Transitive (relateBy reader) u v w := by
  obtain ⟨right, outer⟩ := rankShared decides
  have first := relateByHolds reader u v
  have second := relateByHolds reader v w
  have both := relateByHolds reader u w
  rw [right] at second
  rw [outer] at both
  constructor
  case lt =>
    rw [first, second, both]
    exact Relation.ltTrans
  case le =>
    rw [first, second, both]
    exact Relation.leTrans
  case eq =>
    rw [first, second, both]
    exact Relation.eqTrans
  case ltLe =>
    rw [first, second, both]
    exact Relation.ltLeTrans
  case leLt =>
    rw [first, second, both]
    exact Relation.leLtTrans

theorem relationsTransitive {u v w : Value} (decides : OneRankDecides u v w) :
    Transitive relate u v w ∧ ∀ reader, Transitive (relateBy reader) u v w := by
  refine ⟨?_, fun reader => relateByTransitive reader decides⟩
  rw [← relateByRead]
  exact relateByTransitive _ decides

theorem relationsTransitiveAmongVersions :
    OneRankDecides (single .version "1.2") (string "1.10 beta") (single .version "1.10.0") ∧
      relate (single .version "1.2") .lt (single .version "1.10.0") ∧
      ∀ reader, Transitive (relateBy reader) (single .version "1.2") (string "1.10 beta")
        (single .version "1.10.0") := by
  have decides : OneRankDecides (single .version "1.2") (string "1.10 beta")
      (single .version "1.10.0") := by decide
  obtain ⟨here, everywhere⟩ := relationsTransitive decides
  exact ⟨decides, here.ltLe (by decide +kernel) (by decide +kernel), everywhere⟩

/- Where the number is alone in its rank, it is compared otherwise than the texts are. -/
example : relate (string "10") .lt (string "9") ∧ relate (string "9") .lt (int 10) ∧
    relate (string "10") .lt (int 10) = false := by decide +kernel

end Value
end Descriptor
