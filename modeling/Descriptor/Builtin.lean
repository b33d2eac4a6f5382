/-!
The functions that come with the language, by name. What they do is in `Descriptor.Execution`.
-/
namespace Descriptor

inductive Builtin
  | true | false | env | defined | value | toUpper | toLower | size | join | exists | hostOs
  | hostArch
  deriving DecidableEq, Repr

namespace Builtin

def name : Builtin → String
  | true => "true"
  | false => "false"
  | env => "env"
  | defined => "defined"
  | value => "value"
  | toUpper => "to_upper"
  | toLower => "to_lower"
  | size => "size"
  | join => "join"
  | «exists» => "exists"
  | hostOs => "host_os"
  | hostArch => "host_arch"

def all : List Builtin :=
  [true, false, env, defined, value, toUpper, toLower, size, join, «exists», hostOs, hostArch]

theorem memAll (b : Builtin) : b ∈ all := by cases b <;> decide

theorem namesDistinct : (all.map name).Nodup := by decide

end Builtin
end Descriptor
