import Descriptor.Binary64
import Descriptor.Decimal
/-!
Writing floating point numbers: the fewest digits that no other number reads as, always positional.
All comparisons are between natural numbers.
-/
namespace Descriptor.Binary64

structure Scaled where
  significand : Nat
  exponent : Int
  deriving DecidableEq, Repr

/- The reals that round to a finite number, in quarters of the unit: their bounds, and whether the
bounds belong to them, which they do when the word is even. -/
structure Interval where
  low : Nat
  high : Nat
  closed : Bool

/- Half the way to the neighbours on both sides. Below a power of two the neighbour is twice as
near, as the spacing changes there. -/
def interval (x : Binary64) : Interval :=
  let exponent := x.magnitude >>> 52
  let gap := 1 <<< (exponent - 1)
  let below := if x.magnitude % (1 <<< 52) = 0 ∧ exponent > 1 then gap / 2 else gap
  ⟨4 * x.units - 2 * below, 4 * x.units + 2 * gap, x.magnitude % 2 = 0⟩

def Interval.has (i : Interval) (num den : Nat) : Bool :=
  if i.closed then i.low * den ≤ num && num ≤ i.high * den
  else i.low * den < num && num < i.high * den

def onGrid? (x : Binary64) (exponent : Int) : Option Scaled :=
  -- One grid step is `step / den` quarter units, and the number is `here / den` quarter units.
  let (step, den) :=
    if exponent < 0 then (4 <<< 1074, Nat.pow 10 exponent.natAbs)
    else ((4 <<< 1074) * Nat.pow 10 exponent.natAbs, 1)
  let here := 4 * x.units * den
  let floor := here / step
  let lower := x.interval.has (floor * step) den
  let upper := x.interval.has ((floor + 1) * step) den
  let choose := fun d => some (Scaled.mk d exponent)
  if upper && (!lower || (2 * (here % step) ≥ step : Bool)) then choose (floor + 1)
  else if lower then choose floor
  else none

def grids : List Int :=
  (List.range 660).map fun i : Nat => 310 - (i : Int)

def shortest (x : Binary64) : Scaled :=
  (grids.findSome? x.onGrid?).getD ⟨0, 0⟩

def Scaled.text (d : Scaled) : List Char :=
  let digits := Decimal.digits d.significand
  let zeros (n : Nat) := List.replicate n '0'
  if d.exponent < 0 then
    let places := d.exponent.natAbs
    let padded := zeros (places + 1 - digits.length) ++ digits
    padded.take (padded.length - places) ++ '.' :: padded.drop (padded.length - places)
  else digits ++ zeros d.exponent.natAbs

def text (x : Binary64) : List Char :=
  if x.isNaN then "NaN".toList
  else
    let sign := if x.negative then ['-'] else []
    if x.magnitude = infinityWord then sign ++ "inf".toList
    else if x.magnitude = 0 then sign ++ ['0']
    else sign ++ x.shortest.text

example : (ofBits 0x3FB999999999999A).text = "0.1".toList := by decide +kernel
example : (ofBits 0xC0F86A0000000000).text = "-100000".toList := by decide +kernel
example : (ofBits 0x44B52D02C7E14AF6).text = '1' :: List.replicate 23 '0' := by decide +kernel
example : (ofBits 0x8000000000000000).text = "-0".toList := by decide +kernel

end Descriptor.Binary64
