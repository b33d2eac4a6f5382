import Descriptor.Failure
/-!
Calls as functions see them: an identifier and the parameters in the order in which they were
written.
-/
namespace Descriptor

structure Identifier where
  name : String
  index : Option Nat
  deriving DecidableEq, Repr

def Identifier.text (i : Identifier) : String :=
  match i.index with
  | some n => i.name ++ "[" ++ toString n ++ "]"
  | none => i.name

structure Parameter where
  option : String
  value : Option String
  deriving DecidableEq, Repr

abbrev Parameters := List Parameter

namespace Parameters

def get? (ps : Parameters) (option : String) : Option Parameter :=
  ps.find? (·.option == option)

def has (ps : Parameters) (option : String) : Bool :=
  (get? ps option).isSome

/- The value of the first parameter with the given option. A later one does not count, even if
the first has no value. -/
def value? (ps : Parameters) (option : String) : Option String :=
  (get? ps option).bind (·.value)

def require (ps : Parameters) (function option : String) : Except Failure String :=
  match value? ps option with
  | some v => .ok v
  | none => .error (.of (.missingParameter function option))

end Parameters

end Descriptor
