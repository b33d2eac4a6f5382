/-!
Floating point numbers of 64 bits, as data: a sign and the word of the other 63 bits. Numbers are
compared by these words, which is exact, and no arithmetic of the machine is used.
-/
namespace Descriptor

/- A binary64 datum. The word `magnitude` holds the exponent above the 52 bits of the fraction, so
that larger words are larger numbers. -/
structure Binary64 where
  negative : Bool
  magnitude : Nat
  inWord : magnitude < 1 <<< 63
  deriving DecidableEq, Repr

namespace Binary64

def infinityWord : Nat := 2047 <<< 52

def zero : Binary64 := ⟨false, 0, by decide⟩

def infinity (negative : Bool) : Binary64 := ⟨negative, infinityWord, by decide⟩

def notANumber : Binary64 := ⟨false, infinityWord + 1 <<< 51, by decide⟩

def isNaN (x : Binary64) : Bool :=
  infinityWord < x.magnitude

def ofBits (n : Nat) : Binary64 :=
  ⟨(n >>> 63) % 2 = 1, n % (1 <<< 63), Nat.mod_lt _ (by decide)⟩

def toBits (x : Binary64) : Nat :=
  (if x.negative then 1 <<< 63 else 0) + x.magnitude

def rank (x : Binary64) : Int :=
  if x.negative then -x.magnitude else x.magnitude

def order (x y : Binary64) : Ordering :=
  compare x.rank y.rank

def units (x : Binary64) : Nat :=
  let exponent := x.magnitude >>> 52
  let fraction := x.magnitude % (1 <<< 52)
  if exponent = 0 then fraction else (1 <<< 52 + fraction) <<< (exponent - 1)

def roundDiv (num den : Nat) : Nat :=
  let q := num / den
  let twice := 2 * (num % den)
  if twice < den then q
  else if twice > den then q + 1
  else q + q % 2

/- The number nearest to `num / den`: of two equally near ones that with the even word. Above the
finite numbers, infinity. The significand is rounded at the unit when it has at most 53 bits, and
otherwise at the place that leaves 53; a carry out of it falls into the exponent. -/
def nearest (negative : Bool) (num den : Nat) : Binary64 :=
  let scaled := num <<< 1074
  let shift := (scaled / den).log2 - 52
  ⟨negative, min infinityWord (shift <<< 52 + roundDiv scaled (den <<< shift)),
    Nat.lt_of_le_of_lt (Nat.min_le_left ..) (by decide)⟩

end Binary64
end Descriptor
