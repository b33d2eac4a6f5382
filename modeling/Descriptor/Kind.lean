import Descriptor.Failure
/-!
The kinds of values and their names.
-/
namespace Descriptor

inductive Kind
  | unknown | bool | int | float | string | guid | version
  deriving DecidableEq, Repr, Inhabited

namespace Kind

def name : Kind → String
  | unknown => "unknown"
  | bool => "bool"
  | int => "int"
  | float => "float"
  | string => "string"
  | guid => "guid"
  | version => "version"

def named : List Kind :=
  [bool, int, float, string, guid, version]

def ofName? (s : String) : Option Kind :=
  named.find? (·.name == s)

def read (s : String) : Except Failure Kind :=
  match ofName? s with
  | some k => .ok k
  | none => .error (.of (.unknownValueType s))

theorem ofNameBack {k : Kind} (h : k ≠ unknown) : ofName? k.name = some k := by
  cases k <;> first | exact absurd rfl h | decide

end Kind
end Descriptor
