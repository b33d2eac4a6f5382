/-!
Case mappings of single characters, with runs of regular pairs and a list of expansions.
-/
namespace Descriptor.Text.Casing

/- Every `step`-th code point from `first` to `last`, and the code point that `first` goes to;
the others of the run keep that distance. -/
structure CaseRun where
  first : Nat
  last : Nat
  step : Nat
  image : Nat
  deriving Repr

def CaseRun.imageOf? (r : CaseRun) (n : Nat) : Option Nat :=
  if r.first ≤ n ∧ n ≤ r.last ∧ (n - r.first) % r.step = 0 then some (r.image + (n - r.first))
  else none

structure CaseMapping where
  runs : List CaseRun
  expansions : List (Nat × List Nat)
  deriving Repr

def CaseMapping.apply (m : CaseMapping) (c : Char) : List Char :=
  match m.expansions.lookup c.toNat with
  | some image => image.map Char.ofNat
  | none => [((m.runs.findSome? (·.imageOf? c.toNat)).map Char.ofNat).getD c]

end Descriptor.Text.Casing
