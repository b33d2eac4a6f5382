import Descriptor.Project
/-!
Definitions of symbols as they are given on a command line, `NAME[:TYPE]=VALUE`, and the contexts
that they build.
-/
namespace Descriptor

structure Definition where
  name : String
  value : Value
  deriving DecidableEq, Repr

inductive DefinitionError
  | missingEquals (text : String)
  | emptyName (text : String)
  | unknownType (type text : String)
  deriving DecidableEq, Repr

def DefinitionError.message : DefinitionError → String
  | missingEquals text => "expected NAME[:TYPE]=VALUE, got '" ++ text ++ "'"
  | emptyName text => "empty symbol name in '" ++ text ++ "'"
  | unknownType type text => "unknown value type '" ++ type ++ "' in '" ++ text ++ "'"

namespace Definition

open Text (splitFirst trim)

def left (text : String) (s : List Char) : Except DefinitionError (List Char × Kind) :=
  match splitFirst ':' s with
  | none => .ok (s, .string)
  | some (name, type) =>
    match Kind.ofName? (String.ofList type) with
    | some kind => .ok (name, kind)
    | none => .error (.unknownType (String.ofList type) text)

/- Reads a definition. The name loses the blanks around it, and the value falls into components at
its spaces. An unknown kind is told before an empty name. -/
def read (text : String) : Except DefinitionError Definition := do
  match splitFirst '=' text.toList with
  | none => throw (.missingEquals text)
  | some (before, after) =>
    let (name, kind) ← left text before
    let name := trim name
    if name.isEmpty then throw (.emptyName text)
    return ⟨String.ofList name, .ofPieces kind (String.ofList after) ' '⟩

end Definition

structure Definitions where
  environment : List Definition
  globals : List Definition
  locals : List Definition
  deriving DecidableEq, Repr

def Definition.entry (d : Definition) : String × Value := (d.name, d.value)

def Definitions.context {X : Type} (d : Definitions) (p : Project) : Context X :=
  let base := Context.ofProject .builtins (.ofList (d.environment.map Definition.entry)) p
  { base with
    globals := base.globals.insertAll (d.globals.map Definition.entry)
    locals := base.locals.insertAll (d.locals.map Definition.entry) }

end Descriptor
