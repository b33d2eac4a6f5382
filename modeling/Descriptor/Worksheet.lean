import Descriptor.Condition
import Descriptor.Template
/-!
Worksheets: texts with one condition or template a line.
-/
namespace Descriptor

variable {m : Type → Type} [Monad m] {X : Type}

namespace Worksheet

/- The lines that ask for something, with their numbers from 1: those that are neither blank nor
begin with a number sign. Blanks around them do not count. -/
def lines (text : String) : List (Nat × String) :=
  let trimmed := (Text.split '\n' text.toList).map Text.trim
  (trimmed.zipIdx 1).filterMap fun (line, number) =>
    if line.isEmpty || line.head? = some '#' then none else some (number, String.ofList line)

def answer (host : Host m X) (c : Context X) (asTemplate : Bool) (line : String) :
    m (Except Failure String) := do
  if asTemplate then c.expand host line
  else return (← c.eval host line).map fun b => if b then "true" else "false"

def run (host : Host m X) (c : Context X) (asTemplate : Bool) (text : String) : m String := do
  let answers ← (lines text).mapM fun (number, line) => do
    let shown := match ← answer host c asTemplate line with
      | .ok s => s
      | .error f => "error: " ++ f.message
    return toString number ++ ": " ++ shown ++ "\n"
  return String.join answers

end Worksheet
end Descriptor
