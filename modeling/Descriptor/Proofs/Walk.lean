import Descriptor.Proofs.Cuts
import Descriptor.Proofs.Reports
/-!
The scanners once more, as walks through the bytes of a text. A walker knows its place only as a
number of bytes. It sees a text by cutting it there, which works at the edge of a character alone,
and it goes on over whole characters. What must not happen is a halt, which nothing recovers from: a
cut out of place, a difference below zero, a scanner entered before another character than its own,
more rounds than were allowed.
-/
namespace Descriptor
open Condition
open Text (isBlank)

inductive Halt
  | cut | difference | entry | rounds
  deriving DecidableEq, Repr

structure Walker (W : Type) where
  whole : List Char
  position : Nat
  pushed : List Token
  world : W

abbrev Walk (W : Type) := ExceptT Failure (StateT (Walker W) (Except Halt))

variable {W α β : Type}

def walk (x : Walk W α) (k : Walker W) : Except Halt (Except Failure α × Walker W) := x.run.run k

namespace Walk

def halt (h : Halt) : Walk W α := ExceptT.mk fun _ => .error h

def demand (h : Halt) : Option α → Walk W α
  | some a => return a
  | none => halt h

def position : Walk W Nat := return (← get).position

def unread : Walk W (List Char) := do
  let k ← get
  demand .cut (behindBytes? k.position k.whole)

def peek : Walk W (Option Char) := return (← unread).head?

def bump : Walk W Unit := do
  match ← peek with
  | some c => modify fun k => { k with position := k.position + c.utf8Size }
  | none => return

def eat (c : Char) : Walk W Bool := do
  if (← peek) = some c then
    bump
    return true
  else return false

def enter (c : Char) : Walk W Unit := do
  if (← peek) = some c then bump else halt .entry

structure Place where
  position : Nat
  unread : List Char

def place : Walk W Place := return ⟨← position, ← unread⟩

def fault (defect : Defect) (p : Place) : Walk W α :=
  throw (.of (.expression (.malformed defect p.position (String.ofList p.unread))))

def skip : Nat → Walk W Unit
  | 0 => halt .rounds
  | rounds + 1 => do
    match ← peek with
    | some c =>
      if isBlank c then
        bump
        skip rounds
      else return
    | none => return

def escape : Walk W Char := do
  let start ← place
  enter '\\'
  match ← peek with
  | none => fault .danglingEscape start
  | some c =>
    bump
    match Scan.escapes.lookup c with
    | some meant => return meant
    | none => fault (.invalidEscape c) start

def seek (start : Place) : Nat → Walk W Unit
  | 0 => halt .rounds
  | rounds + 1 => do
    match ← peek with
    | some c =>
      if c = ']' then return
      else
        bump
        seek start rounds
    | none => fault .missingCloseBracket start

def difference (m n : Nat) : Walk W Nat :=
  if n ≤ m then return m - n else halt .difference

def index (rounds : Nat) : Walk W Nat := do
  let start ← place
  bump
  let low ← difference (← position) start.position
  seek start rounds
  let high ← difference (← position) start.position
  let inside ← demand .cut (between? low high start.unread)
  bump
  match Decimal.index? inside with
  | some n => return n
  | none => fault (.invalidIndex (String.ofList inside)) start

def bracket (rounds : Nat) : Walk W (Option Nat) := do
  if (← peek) = some '[' then return some (← index rounds) else return none

variable (exec : Exec (StateM W))

def answer (id : Identifier) (ps : Parameters) : Walk W Value := ExceptT.mk fun k =>
  let (result, w) := perform (exec id ps) k.world
  .ok (result, { k with world := w })

mutual

def text (ends : Char → Bool) : Nat → Walk W (List Char)
  | 0 => halt .rounds
  | rounds + 1 => do
    match ← peek with
    | none => return []
    | some c =>
      if ends c then return []
      else
        let first ← unit c rounds
        let more ← text ends rounds
        return first ++ more

def unit (c : Char) : Nat → Walk W (List Char)
  | 0 => halt .rounds
  | rounds + 1 =>
    if c = '\\' then return [← escape]
    else if c = '\'' then quoted rounds
    else if c = '$' then return (← call rounds).text.toList
    else do
      bump
      return [c]

def quoted : Nat → Walk W (List Char)
  | 0 => halt .rounds
  | rounds + 1 => do
    let start ← place
    enter '\''
    let inside ← text Scan.endsQuoted rounds
    match ← peek with
    | none => fault .unterminatedQuote start
    | some _ =>
      bump
      return inside

def call : Nat → Walk W Value
  | 0 => halt .rounds
  | rounds + 1 => do
    enter '$'
    if ← eat '(' then
      skip rounds
      let id ← identifier rounds
      let ps ← parameters rounds
      answer exec id ps
    else fault .missingOpenParenthesis (← place)

def identifier : Nat → Walk W Identifier
  | 0 => halt .rounds
  | rounds + 1 => do
    let start ← place
    let name ← text Scan.endsName rounds
    skip rounds
    let i ← bracket rounds
    if name.isEmpty then fault .missingIdentifier start else return ⟨String.ofList name, i⟩

def parameters : Nat → Walk W Parameters
  | 0 => halt .rounds
  | rounds + 1 => do
    skip rounds
    match ← peek with
    | none => fault .missingCloseParenthesis (← place)
    | some c =>
      if c = ')' then
        bump
        return []
      else if c = '-' then
        bump
        let first ← parameter rounds
        let more ← parameters rounds
        return first :: more
      else fault (.invalidCharacter c) (← place)

def parameter : Nat → Walk W Parameter
  | 0 => halt .rounds
  | rounds + 1 => do
    let option ← text Scan.endsOption rounds
    if ← eat ':' then
      let value ← text Scan.endsValue rounds
      return ⟨String.ofList option, some (String.ofList value)⟩
    else return ⟨String.ofList option, none⟩

end

def double (c : Char) (t : Token) : Walk W Token := do
  let start ← place
  bump
  if ← eat c then return t else fault (.incompleteOperator c) start

def withEquals (longer shorter : Token) : Walk W Token := do
  bump
  if ← eat '=' then return longer else return shorter

def scanFrom (rounds : Nat) : Char → Walk W Token
  | '|' => double '|' .or
  | '&' => double '&' .and
  | '=' => double '=' (.relation .eq)
  | '!' => withEquals (.relation .ne) .not
  | '<' => withEquals (.relation .le) (.relation .lt)
  | '>' => withEquals (.relation .ge) (.relation .gt)
  | '(' => do
    bump
    return .leftParen
  | ')' => do
    bump
    return .rightParen
  | '\'' => return .value (.string (String.ofList (← quoted exec rounds)))
  | '$' => return .value (← call exec rounds)
  | c => do
    if Token.endsLiteral c then fault (.invalidCharacter c) (← place)
    else return .value (.string (String.ofList (← text exec Token.endsLiteral rounds)))

def scan (rounds : Nat) : Walk W Token := do
  skip rounds
  match ← peek with
  | none => return .finish
  | some c => scanFrom exec rounds c

def next (rounds : Nat) : Walk W Token := do
  let k ← get
  match k.pushed with
  | t :: rest =>
    set { k with pushed := rest }
    return t
  | [] => scan exec rounds

def pushBack (t : Token) : Walk W Unit :=
  modify fun k => { k with pushed := t :: k.pushed }

def source (rounds : Nat) : Source (Walk W) := ⟨next exec rounds, pushBack⟩

end Walk
end Descriptor
