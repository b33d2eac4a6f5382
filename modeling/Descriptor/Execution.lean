import Descriptor.Call
import Descriptor.Context
import Descriptor.Text.Casing
/-!
Calls at work: where the value of a symbol comes from, what the functions of the language do, and
what a name with parameters calls. The surroundings come in as a host whose answers are effects of
an arbitrary monad.
-/
namespace Descriptor

structure Host (m : Type → Type) (X : Type) where
  osVariable? : String → m (Option String)
  pathExists : String → m Bool
  system : String
  architecture : String
  run : X → Context X → Parameters → m (Except Failure Value)

abbrev Exec (m : Type → Type) := Identifier → Parameters → m (Except Failure Value)

variable {m : Type → Type} [Monad m] {X : Type}

def Context.lookup (host : Host m X) (c : Context X) (name : String) : m Value := do
  match c.symbol? name with
  | some v => return v
  | none =>
    match ← host.osVariable? name with
    | some s => return .string s
    | none => return .unknown

def Parameters.separator (ps : Parameters) : Char :=
  match (value? ps "separator").map String.toList with
  | some (c :: _) => c
  | _ => ' '

def Value.count (n : Nat) : Value :=
  .int (Int64.ofInt (Decimal.clamp n))

def Builtin.run (b : Builtin) (host : Host m X) (c : Context X) (ps : Parameters) :
    ExceptT Failure m Value := do
  let required := fun option => (ps.require b.name option : ExceptT Failure m String)
  let symbol := fun name => (ExceptT.lift (c.lookup host name) : ExceptT Failure m Value)
  match b with
  | true => return .bool Bool.true
  | false => return .bool Bool.false
  | env =>
    let name ← required "name"
    match ← host.osVariable? name, ps.value? "default" with
    | some s, _ => return .string s
    | none, some default => return .string default
    | none, none => return .unknown
  | defined => return .bool !(← symbol (← required "name")).isUnknown
  | value =>
    let kind ← Kind.read (← required "type")
    return .ofPieces kind (← required "value") ps.separator
  | toUpper => return .string (String.ofList (Text.toUpper (← required "value").toList))
  | toLower => return .string (String.ofList (Text.toLower (← required "value").toList))
  | size => return .count (← symbol (← required "name")).size
  | join =>
    let quote := if ps.has "quote" then some '"' else none
    return .string ((← symbol (← required "name")).joined ps.separator quote)
  | «exists» => return .bool (← host.pathExists (← required "path"))
  | hostOs => return .string host.system
  | hostArch => return .string host.architecture

def Function.run (f : Function X) (host : Host m X) (c : Context X) (ps : Parameters) :
    m (Except Failure Value) :=
  match f with
  | .builtin b => (b.run host c ps).run
  | .extension x => host.run x c ps

def Context.exec (host : Host m X) (c : Context X) : Exec m := fun id ps =>
  match c.functions.get? id.name with
  | some f => f.run host c ps
  | none =>
    if ps.isEmpty then do
      let v ← c.lookup host id.name
      return .ok (match id.index with
        | some i => v.component i
        | none => v)
    else return .ok .unknown

end Descriptor
