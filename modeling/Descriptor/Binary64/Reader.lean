import Descriptor.Binary64
import Descriptor.Decimal
/-!
Reading floating point numbers from text. `read?` takes a whole text or refuses it; `leading` takes
the longest part of a text, from its start, that a given reader takes for a number.
-/
namespace Descriptor.Binary64

open Decimal (isDigit value)
open Text (trim)

/- The exponent of ten that digits to the end of the text stand for. One that has passed 65536
counts no further digits. -/
def unsignedExponent? (ds : List Char) : Option Nat :=
  if !ds.isEmpty && ds.all isDigit then
    some (ds.foldl (fun n c => if n < 65536 then 10 * n + Decimal.digit c else n) 0)
  else none

def exponent? : List Char → Option Int
  | '-' :: ds => (unsignedExponent? ds).map fun n => -(n : Int)
  | '+' :: ds => (unsignedExponent? ds).map Int.ofNat
  | ds => (unsignedExponent? ds).map Int.ofNat

/- The number nearest to the digits `ds` times ten to the `exponent`. With its first digit more than
four hundred places before or behind the point it is infinite or zero, whatever its digits. -/
def ofDecimal (negative : Bool) (ds : List Char) (exponent : Int) : Binary64 :=
  let significant := ds.dropWhile (· = '0')
  let places := significant.length + exponent
  if significant.isEmpty ∨ places < -400 then ⟨negative, 0, zero.inWord⟩
  else if places > 400 then infinity negative
  else if exponent < 0 then nearest negative (value significant) (Nat.pow 10 exponent.natAbs)
  else nearest negative (value significant * Nat.pow 10 exponent.natAbs) 1

def readUnsigned? (negative : Bool) (s : List Char) : Option Binary64 :=
  let whole := s.takeWhile isDigit
  let (fraction, rest) :=
    match s.dropWhile isDigit with
    | '.' :: rest => (rest.takeWhile isDigit, rest.dropWhile isDigit)
    | rest => ([], rest)
  let exponent : Option Int :=
    match rest with
    | [] => some 0
    | c :: rest => if c = 'e' ∨ c = 'E' then exponent? rest else none
  if whole.isEmpty && fraction.isEmpty then
    let name := s.map Char.toLower
    if name = "inf".toList ∨ name = "infinity".toList then some (infinity negative)
    else if name = "nan".toList then some notANumber
    else none
  else
    exponent.map fun e => ofDecimal negative (whole ++ fraction) (e - fraction.length)

def read? (s : List Char) : Option Binary64 :=
  match s with
  | '-' :: rest => readUnsigned? true rest
  | '+' :: rest => readUnsigned? false rest
  | rest => readUnsigned? false rest

def prefixes (s : List Char) : List (List Char) :=
  (List.range (s.length + 1)).reverse.map s.take

def leadingBy (reader : List Char → Option Binary64) (s : List Char) : Binary64 :=
  ((prefixes (trim s)).findSome? fun start => (reader start).filter (!·.isNaN)).getD zero

def leading : List Char → Binary64 :=
  leadingBy read?

theorem leadingByNumber (reader : List Char → Option Binary64) (s : List Char) :
    (leadingBy reader s).isNaN = false := by
  unfold leadingBy
  cases h : (prefixes (trim s)).findSome? fun start => (reader start).filter (!·.isNaN) with
  | none => decide
  | some x =>
    obtain ⟨start, _, hx⟩ := List.exists_of_findSome?_eq_some h
    simpa using (Option.filter_eq_some_iff.1 hx).2

example : leading "2.5kg".toList = nearest false 5 2 := by decide +kernel
example : leading " -.5e+ ".toList = nearest true 1 2 := by decide +kernel
example : leading "-INFinite".toList = infinity true := by decide +kernel
example : leading "nan".toList = zero := by decide +kernel
example : (leading "9007199254740993".toList).units = 9007199254740992 <<< 1074 := by
  decide +kernel

end Descriptor.Binary64
