import Descriptor.Tokenizer
/-!
Templates: texts in which calls, escapes and quoted sections are replaced by what they stand for.
-/
namespace Descriptor

variable {m : Type → Type} [Monad m] {X : Type}

namespace Template

def expand (exec : Exec m) (s : List Char) : m (Except Failure (List Char)) := do
  let (result, _) ← Scan.text exec (fun _ => false) s
  return result.mapError (·.toFailure s)

end Template

def Context.expand (host : Host m X) (c : Context X) (text : String) :
    m (Except Failure String) := do
  let result ← Template.expand (c.exec host) text.toList
  return match result with
    | .ok s => .ok (String.ofList s)
    | .error f => .error (f.within (.expanding text))

end Descriptor
