import Descriptor.Text.Blank
import Descriptor.Text.Pieces
/-!
Identifiers of 16 bytes and their two written forms: 32 hexadecimal digits, or the same digits with
dashes after the 8th, 12th, 16th and 20th.
-/
namespace Descriptor

open Text (trim split)

structure Guid where
  bytes : List UInt8
  bytesLength : bytes.length = 16
  deriving DecidableEq, Repr

structure GuidError where
  text : String
  deriving DecidableEq, Repr

def GuidError.message (e : GuidError) : String :=
  "invalid GUID '" ++ e.text ++ "'"

namespace Guid

def nibble? (c : Char) : Option Nat :=
  let n := c.toNat
  if '0' ≤ c ∧ c ≤ '9' then some (n - '0'.toNat)
  else if 'a' ≤ c ∧ c ≤ 'f' then some (n - 'a'.toNat + 10)
  else if 'A' ≤ c ∧ c ≤ 'F' then some (n - 'A'.toNat + 10)
  else none

def nibble (n : Nat) : Char :=
  if n < 10 then Char.ofNat ('0'.toNat + n) else Char.ofNat ('a'.toNat + (n - 10))

def bytes? : List Char → Option (List UInt8)
  | [] => some []
  | high :: low :: rest => do
    let h ← nibble? high
    let l ← nibble? low
    return UInt8.ofNat (16 * h + l) :: (← bytes? rest)
  | [_] => none

def digits? (s : List Char) : Option (List Char) :=
  let groups := split '-' s
  if groups.map List.length = [32] ∨ groups.map List.length = [8, 4, 4, 4, 12] then
    some groups.flatten
  else none

def ofBytes? (bytes : List UInt8) : Option Guid :=
  if h : bytes.length = 16 then some ⟨bytes, h⟩ else none

def read? (s : List Char) : Option Guid := do
  ofBytes? (← bytes? (← digits? (trim s)))

def read (s : String) : Except GuidError Guid :=
  match read? s.toList with
  | some g => .ok g
  | none => .error ⟨String.ofList (trim s.toList)⟩

def text (g : Guid) : List Char :=
  g.bytes.flatMap fun b => [nibble (b.toNat / 16), nibble (b.toNat % 16)]

def order (g h : Guid) : Ordering :=
  compare (g.bytes.map UInt8.toNat) (h.bytes.map UInt8.toNat)

theorem nibbleBack {n : Nat} (h : n < 16) : nibble? (nibble n) = some n := by
  have all : ∀ i < 16, nibble? (nibble i) = some i := by decide
  exact all n h

end Guid
end Descriptor
