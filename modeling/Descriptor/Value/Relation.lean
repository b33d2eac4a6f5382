import Descriptor.Binary64.Reader
import Descriptor.Value
/-!
Values as conditions and in comparisons. Two values of different kinds are read alike: the kind
that ranks higher decides how.
-/
namespace Descriptor

inductive Relation
  | eq | ne | lt | gt | le | ge
  deriving DecidableEq, Repr

namespace Relation

def symbol : Relation → String
  | eq => "=="
  | ne => "!="
  | lt => "<"
  | gt => ">"
  | le => "<="
  | ge => ">="

def isEquality : Relation → Bool
  | eq | ne => true
  | _ => false

def holds : Relation → Ordering → Bool
  | eq, o => o.isEq
  | ne, o => o.isNe
  | lt, o => o.isLT
  | gt, o => o.isGT
  | le, o => o.isLE
  | ge, o => o.isGE

end Relation

namespace Value

inductive Reading
  | version | float | int | bool | text
  deriving DecidableEq, Repr

namespace Reading

/- The order of two texts under a reading. A text that is not `true` reads as false, and texts
as such are ordered by their characters. -/
def order : Reading → String → String → Ordering
  | version, s, t => (Version.leading s.toList).order (Version.leading t.toList)
  | float, s, t => (Binary64.leading s.toList).order (Binary64.leading t.toList)
  | int, s, t => compare (Decimal.leading s.toList) (Decimal.leading t.toList)
  | bool, s, t => compare (s == "true") (t == "true")
  | text, s, t => compare s t

/- The reading for two values: versions before floats before integers. Truth values count only
where an order is asked for; they are equal as texts. -/
def between (v w : Value) (equality : Bool) : Reading :=
  let either (k : Kind) : Bool := v.kind = k || w.kind = k
  if either .version then version
  else if either .float then float
  else if either .int then int
  else if !equality && either .bool then bool
  else text

end Reading

def relate (v : Value) (r : Relation) (w : Value) : Bool :=
  r.holds ((Reading.between v w r.isEquality).order v.text w.text)

def isTrue (v : Value) : Bool :=
  match v.kind with
  | .unknown => false
  | .bool => v.text = "true"
  | .int => Decimal.leading v.text.toList ≠ 0
  | .float => (Binary64.leading v.text.toList).rank ≠ 0
  | .string | .guid | .version => !v.text.isEmpty

end Value
end Descriptor
