import Descriptor.Token
/-!
Tokenizers: a text that is read token by token, with tokens put back in front of it.
-/
namespace Descriptor

def Scan.Stop.toFailure (whole : List Char) : Scan.Stop → Failure
  | .fault f =>
    let unread := String.ofList f.unread
    .of (.expression
      (.malformed f.defect ((String.ofList whole).utf8ByteSize - unread.utf8ByteSize) unread))
  | .failure f => f

structure Tokenizer where
  whole : List Char
  unread : List Char
  pushed : List Token
  deriving DecidableEq, Repr

namespace Tokenizer

def ofText (s : List Char) : Tokenizer := ⟨s, s, []⟩

def pushBack (t : Token) (k : Tokenizer) : Tokenizer :=
  { k with pushed := t :: k.pushed }

def size (k : Tokenizer) : Nat :=
  k.unread.length + (k.pushed.filter (· != .finish)).length

variable {m : Type → Type} [Monad m]

abbrev Reading (m : Type → Type) := ExceptT Failure (StateT Tokenizer m)

/- The next token of the text. What has been read stays read, also behind a fault. -/
def scan (exec : Exec m) : Reading m Token := do
  let k ← get
  let (result, n) ← (Token.scan exec k.unread : m _)
  set { k with unread := k.unread.drop n }
  match result with
  | .ok t => return t
  | .error stop => throw (stop.toFailure k.whole)

def next (exec : Exec m) : Reading m Token := do
  let k ← get
  match k.pushed with
  | t :: rest =>
    set { k with pushed := rest }
    return t
  | [] => scan exec

end Tokenizer
end Descriptor
