import Descriptor.Scan
import Descriptor.Value.Relation
/-!
Tokens of conditions, and the scanner for one of them.
-/
namespace Descriptor

inductive Token
  | finish
  | or
  | and
  | not
  | leftParen
  | rightParen
  | relation (r : Relation)
  | value (v : Value)
  deriving DecidableEq, Repr

namespace Token

def text : Token → String
  | finish => "end of expression"
  | or => "||"
  | and => "&&"
  | not => "!"
  | leftParen => "("
  | rightParen => ")"
  | relation r => r.symbol
  | value v => "'" ++ v.text ++ "'"

def isLiteral (c : Char) : Bool :=
  Text.isAlphanumeric c || "_.-+/:~@%#,*?".toList.contains c

def endsLiteral (c : Char) : Bool :=
  !(isLiteral c || Scan.isSpecial c)

open Scan (Outcome)

def double (c : Char) (token : Token) (rest : List Char) : Outcome Token :=
  if rest.head? = some c then (.ok token, 1) else .fault (.incompleteOperator c) (c :: rest) 0

def withEquals (longer shorter : Token) (rest : List Char) : Outcome Token :=
  if rest.head? = some '=' then (.ok longer, 1) else (.ok shorter, 0)

variable {m : Type → Type} [Monad m]

/- Reads a token whose first character `c` is not blank. Only a single call keeps the kind of its
value; all other values are strings. -/
def scanFrom (exec : Exec m) (c : Char) (rest : List Char) : m (Outcome Token) := do
  match c with
  | '|' => return (double c or rest).behind 1
  | '&' => return (double c and rest).behind 1
  | '=' => return (double c (relation .eq) rest).behind 1
  | '!' => return (withEquals (relation .ne) not rest).behind 1
  | '<' => return (withEquals (relation .le) (relation .lt) rest).behind 1
  | '>' => return (withEquals (relation .ge) (relation .gt) rest).behind 1
  | '(' => return (.ok leftParen, 1)
  | ')' => return (.ok rightParen, 1)
  | '\'' =>
    let (s, n) ← Scan.quoted exec rest
    return (s.map fun s => value (.string (String.ofList s)), 1 + n)
  | '$' =>
    let (v, n) ← Scan.call exec rest
    return (v.map value, 1 + n)
  | c =>
    if endsLiteral c then return .fault (.invalidCharacter c) (c :: rest) 0
    else
      let (s, n) ← Scan.text exec endsLiteral (c :: rest)
      return (s.map fun s => value (.string (String.ofList s)), n)

def scan (exec : Exec m) : List Char → m (Outcome Token)
  | [] => return (.ok finish, 0)
  | c :: rest =>
    if Text.isBlank c then return (← scan exec rest).behind 1 else scanFrom exec c rest

end Token
end Descriptor
