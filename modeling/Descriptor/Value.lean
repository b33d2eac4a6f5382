import Descriptor.Binary64.Shortest
import Descriptor.Guid
import Descriptor.Kind
import Descriptor.Version
/-!
Values: a kind and any number of components, each of which is text. The kind says how the text is
read when values are compared or stand for a condition; nothing checks that a component fits it.
-/
namespace Descriptor

structure Value where
  kind : Kind
  components : List String
  deriving DecidableEq, Repr, Inhabited

namespace Value

def unknown : Value := ⟨.unknown, []⟩

def single (kind : Kind) (text : String) : Value := ⟨kind, [text]⟩

def bool (b : Bool) : Value := single .bool (if b then "true" else "false")

def int (n : Int64) : Value := single .int (String.ofList (Decimal.text n.toInt))

def float (x : Binary64) : Value := single .float (String.ofList x.text)

def string (s : String) : Value := single .string s

def guid (g : Guid) : Value := single .guid (String.ofList g.text)

def version (v : Version) : Value := single .version (String.ofList v.text)

def ofPieces (kind : Kind) (s : String) (sep : Char) : Value :=
  ⟨kind, (Text.pieces sep s.toList).map String.ofList⟩

def size (v : Value) : Nat := v.components.length

def isEmpty (v : Value) : Bool := v.components.isEmpty

def isUnknown (v : Value) : Bool := v.kind = .unknown

def component (v : Value) (i : Nat) : Value :=
  match v.components[i]? with
  | some text => single v.kind text
  | none => unknown

def joined (v : Value) (sep : Char) (quote : Option Char) : String :=
  String.ofList (Text.joinQuoted sep quote (v.components.map String.toList))

def text (v : Value) : String := v.joined ' ' none

/- The value with the components of another one behind its own. An unknown value takes the kind
of the other one; another kind than its own is not taken at all. -/
def append (v w : Value) : Value :=
  if v.isUnknown then ⟨w.kind, v.components ++ w.components⟩
  else if v.kind = w.kind then ⟨v.kind, v.components ++ w.components⟩
  else v

instance : Append Value := ⟨append⟩

theorem textSingle (kind : Kind) (s : String) : (single kind s).text = s := by
  simp [text, joined, single, Text.joinQuoted, Text.join, List.intercalate]

theorem textString (s : String) : (string s).text = s := textSingle .string s

end Value
end Descriptor
