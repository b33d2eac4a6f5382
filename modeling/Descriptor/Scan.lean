import Descriptor.Execution
import Descriptor.Text.Alphanumeric
/-!
Scanning text with embedded calls `$(name[index] -option:value)`. All scanned text is made of the
same units: a plain character, an escape, a quoted section, a call. What differs is where a text
ends. A call is carried out as soon as its closing parenthesis has been read.

A scanner gets the text that is not yet read. It gives its result, or what stopped it, and how many
characters it has read; the rest of the text is what remains after dropping them. A fault carries
the text from its place on.
-/
namespace Descriptor.Scan

open Text (isAlphanumeric isBlank)

structure Fault where
  defect : Defect
  unread : List Char
  deriving DecidableEq, Repr

inductive Stop
  | fault (f : Fault)
  | failure (f : Failure)
  deriving DecidableEq, Repr

abbrev Outcome (α : Type) := Except Stop α × Nat

def Outcome.fault {α : Type} (defect : Defect) (unread : List Char) (read : Nat) : Outcome α :=
  (.error (.fault ⟨defect, unread⟩), read)

def Outcome.behind {α : Type} (n : Nat) (o : Outcome α) : Outcome α :=
  (o.1, n + o.2)

def escapes : List (Char × Char) :=
  [('n', '\n'), ('t', '\t'), ('r', '\r'), ('\\', '\\'), ('\'', '\''), ('"', '"'), ('$', '$'),
   ('(', '('), (')', ')'), ('[', '['), (']', ']'), ('-', '-'), (':', ':'), (' ', ' ')]

def isSpecial (c : Char) : Bool :=
  c = '\\' || c = '\'' || c = '$'

def endsName (c : Char) : Bool :=
  !(isAlphanumeric c || c = '_' || isSpecial c)

def endsOption (c : Char) : Bool :=
  c = ':' || c = ')' || isBlank c

def endsValue (c : Char) : Bool :=
  c = ')' || isBlank c

def endsQuoted (c : Char) : Bool :=
  c = '\''

def blanks (s : List Char) : Nat :=
  (s.takeWhile isBlank).length

def escape (rest : List Char) : Outcome (List Char) :=
  match rest with
  | [] => .fault .danglingEscape ['\\'] 0
  | c :: _ =>
    match escapes.lookup c with
    | some meant => (.ok [meant], 1)
    | none => .fault (.invalidEscape c) ('\\' :: rest) 1

def index (s : List Char) : Outcome (Option Nat) :=
  match s with
  | '[' :: rest =>
    let inside := rest.takeWhile (· != ']')
    if inside.length = rest.length then .fault .missingCloseBracket s s.length
    else match Decimal.index? inside with
      | some n => (.ok (some n), inside.length + 2)
      | none => .fault (.invalidIndex (String.ofList inside)) s (inside.length + 2)
  | _ => (.ok none, 0)

def identifierOf (s : List Char) (name : List Char) (read : Nat) : Outcome Identifier :=
  let gap := blanks (s.drop read)
  let (index, n) := Outcome.behind (read + gap) (index (s.drop (read + gap)))
  match index with
  | .error stop => (.error stop, n)
  | .ok index =>
    if name.isEmpty then .fault .missingIdentifier s n
    else (.ok ⟨String.ofList name, index⟩, n)

variable {m : Type → Type} [Monad m]

mutual

/- Reads units up to the end of the text or a character that `ends` accepts, which stays unread.
Gives the text that the units stand for. -/
def text (exec : Exec m) (ends : Char → Bool) (s : List Char) : m (Outcome (List Char)) :=
  match s with
  | [] => return (.ok [], 0)
  | c :: rest =>
    if ends c then return (.ok [], 0)
    else do
      let (first, n) ← unit exec c rest
      match first with
      | .error stop => return (.error stop, n + 1)
      | .ok first =>
        let (more, k) ← text exec ends (rest.drop n)
        return (more.map (first ++ ·), n + 1 + k)
termination_by 3 * s.length

def unit (exec : Exec m) (c : Char) (rest : List Char) : m (Outcome (List Char)) :=
  if c = '\\' then return escape rest
  else if c = '\'' then quoted exec rest
  else if c = '$' then do
    let (value, n) ← call exec rest
    return (value.map (·.text.toList), n)
  else return (.ok [c], 0)
termination_by 3 * rest.length + 2

def quoted (exec : Exec m) (rest : List Char) : m (Outcome (List Char)) := do
  let (inside, n) ← text exec endsQuoted rest
  match inside with
  | .error stop => return (.error stop, n)
  | .ok inside =>
    if (rest.drop n).isEmpty then return .fault .unterminatedQuote ('\'' :: rest) n
    else return (.ok inside, n + 1)
termination_by 3 * rest.length + 1

def call (exec : Exec m) (rest : List Char) : m (Outcome Value) :=
  match rest with
  | '(' :: body => do
    let start := 1 + blanks body
    let (id, n) ← identifier exec (body.drop (blanks body))
    match id with
    | .error stop => return (.error stop, start + n)
    | .ok id =>
      let (ps, k) ← parameters exec (body.drop (blanks body + n))
      match ps with
      | .error stop => return (.error stop, start + n + k)
      | .ok ps =>
        match ← exec id ps with
        | .error failure => return (.error (.failure failure), start + n + k)
        | .ok value => return (.ok value, start + n + k)
  | _ => return .fault .missingOpenParenthesis rest 0
termination_by 3 * rest.length

def identifier (exec : Exec m) (s : List Char) : m (Outcome Identifier) := do
  let (name, n) ← text exec endsName s
  match name with
  | .error stop => return (.error stop, n)
  | .ok name => return identifierOf s name n
termination_by 3 * s.length + 1

def parameters (exec : Exec m) (s : List Char) : m (Outcome Parameters) :=
  match s with
  | [] => return .fault .missingCloseParenthesis [] 0
  | c :: rest =>
    if isBlank c then return (← parameters exec rest).behind 1
    else if c = ')' then return (.ok [], 1)
    else if c = '-' then do
      let (first, n) ← parameter exec rest
      match first with
      | .error stop => return (.error stop, n + 1)
      | .ok first =>
        let (more, k) ← parameters exec (rest.drop n)
        return (more.map (first :: ·), n + 1 + k)
    else return .fault (.invalidCharacter c) s 0
termination_by 3 * s.length

def parameter (exec : Exec m) (s : List Char) : m (Outcome Parameter) := do
  let (option, n) ← text exec endsOption s
  match option with
  | .error stop => return (.error stop, n)
  | .ok option =>
    if (s.drop n).head? = some ':' then
      let (value, k) ← text exec endsValue (s.drop (n + 1))
      return (value.map fun value => ⟨String.ofList option, some (String.ofList value)⟩, n + 1 + k)
    else return (.ok ⟨String.ofList option, none⟩, n)
termination_by 3 * s.length + 1

end

end Descriptor.Scan
