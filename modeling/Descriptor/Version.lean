import Descriptor.Decimal
import Descriptor.Text.Pieces
/-!
Versions of three numbers, their order, and their two readers: one that takes only the full form
and one that takes what is there.
-/
namespace Descriptor

open Text (trim split)

structure Version where
  major : UInt32
  minor : UInt32
  patch : UInt32
  deriving DecidableEq, Repr, Inhabited

structure VersionError where
  text : String
  deriving DecidableEq, Repr

def VersionError.message (e : VersionError) : String :=
  "invalid version '" ++ e.text ++ "', expecting major.minor.patch"

namespace Version

def zero : Version := ⟨0, 0, 0⟩

def order (v w : Version) : Ordering :=
  (compare v.major.toNat w.major.toNat).then <|
    (compare v.minor.toNat w.minor.toNat).then (compare v.patch.toNat w.patch.toNat)

def text (v : Version) : List Char :=
  Decimal.digits v.major.toNat ++ '.' :: Decimal.digits v.minor.toNat ++
    '.' :: Decimal.digits v.patch.toNat

def number? (s : List Char) : Option UInt32 :=
  (Decimal.below? UInt32.size s).map UInt32.ofNat

def read? (s : List Char) : Option Version :=
  match split '.' (trim s) with
  | [major, minor, patch] => do
    return ⟨← number? major, ← number? minor, ← number? patch⟩
  | _ => none

def read (s : String) : Except VersionError Version :=
  match read? s.toList with
  | some v => .ok v
  | none => .error ⟨s⟩

def leadingNumber (part : List Char) : UInt32 :=
  let n := Decimal.leading part
  if 0 ≤ n ∧ n < UInt32.size then UInt32.ofNat n.toNat else 0

def leading (s : List Char) : Version :=
  let parts := split '.' (trim s)
  let part (i : Nat) := leadingNumber (parts.getD i [])
  ⟨part 0, part 1, part 2⟩

end Version
end Descriptor
