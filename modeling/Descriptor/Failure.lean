/-!
What can go wrong in conditions, templates and calls, and how it is told. A failure has a cause and
the texts inside which the cause came up, the outermost first.
-/
namespace Descriptor

inductive Defect
  | incompleteOperator (expected : Char)
  | invalidCharacter (found : Char)
  | unterminatedQuote
  | invalidEscape (escaped : Char)
  | danglingEscape
  | missingOpenParenthesis
  | missingCloseParenthesis
  | missingIdentifier
  | missingCloseBracket
  | invalidIndex (index : String)
  deriving DecidableEq, Repr

/- What is wrong with a condition or template. A defect has a place: the number of bytes before
it in UTF-8, and the text from there on. -/
inductive ExpressionError
  | malformed (defect : Defect) (offset : Nat) (remaining : String)
  | expectingValue
  | unbalancedParenthesis
  deriving DecidableEq, Repr

def ExpressionError.message : ExpressionError → String
  | malformed defect offset remaining =>
    let place := " at offset " ++ toString offset
    let rest := ", remaining: '" ++ remaining ++ "'"
    match defect with
    | .incompleteOperator c =>
      "expecting '" ++ c.toString ++ c.toString ++ "'" ++ place ++ rest
    | .invalidCharacter c => "invalid character '" ++ c.toString ++ "'" ++ place ++ rest
    | .unterminatedQuote =>
      "unterminated quoted string starting" ++ place ++ ": '" ++ remaining ++ "'"
    | .invalidEscape c => "invalid escape sequence '\\" ++ c.toString ++ "'" ++ place
    | .danglingEscape => "dangling '\\' at end of input (offset " ++ toString offset ++ ")"
    | .missingOpenParenthesis => "expecting '(' after '$'" ++ place ++ rest
    | .missingCloseParenthesis => "missing closing ')'" ++ place ++ rest
    | .missingIdentifier => "missing function or symbol name" ++ place ++ rest
    | .missingCloseBracket => "missing closing ']'" ++ place ++ rest
    | .invalidIndex index => "invalid index '" ++ index ++ "'" ++ place
  | expectingValue => "expecting value"
  | unbalancedParenthesis => "expecting ')' to close parenthesized expression"

inductive Cause
  | expression (error : ExpressionError)
  | missingParameter (function option : String)
  | unknownValueType (name : String)
  | other (message : String)
  deriving DecidableEq, Repr

def Cause.message : Cause → String
  | expression error => error.message
  | missingParameter function option =>
    function ++ ": missing required parameter -" ++ option
  | unknownValueType name => "unknown value type '" ++ name ++ "'"
  | other message => message

inductive Layer
  | evaluating (text : String)
  | expanding (text : String)
  deriving DecidableEq, Repr

def Layer.message : Layer → String
  | evaluating text => "failed to evaluate '" ++ text ++ "'"
  | expanding text => "failed to expand '" ++ text ++ "'"

structure Failure where
  layers : List Layer
  cause : Cause
  deriving DecidableEq, Repr

namespace Failure

def of (cause : Cause) : Failure := ⟨[], cause⟩

def within (layer : Layer) (f : Failure) : Failure := ⟨layer :: f.layers, f.cause⟩

def messages (f : Failure) : List String :=
  f.layers.map Layer.message ++ [f.cause.message]

def message (f : Failure) : String :=
  ": ".intercalate f.messages

end Failure
end Descriptor
