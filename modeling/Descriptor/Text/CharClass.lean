/-!
Classes of characters given by ranges of code points.
-/
namespace Descriptor.Text

structure CharClass where
  ranges : List (Nat × Nat)
  deriving Repr

namespace CharClass

/- Looks no further than the first range that starts behind `n`. -/
def covers (n : Nat) : List (Nat × Nat) → Bool
  | [] => false
  | (low, high) :: rest => low ≤ n && (n ≤ high || covers n rest)

def has (k : CharClass) (c : Char) : Bool :=
  covers c.toNat k.ranges

def size (k : CharClass) : Nat :=
  k.ranges.foldl (fun n (low, high) => n + (high + 1 - low)) 0

end CharClass
end Descriptor.Text
