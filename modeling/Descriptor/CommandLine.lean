import Descriptor.CommandLine.Arguments
import Descriptor.Condition
import Descriptor.Template
/-!
The command line: evaluates a condition, expands a template or lists the functions.
-/
namespace Descriptor.CommandLine

structure Outcome where
  status : Nat
  output : String
  errors : String
  deriving DecidableEq, Repr

def usage : String :=
  "usage: [OPTIONS] eval [--exit-code] EXPRESSION\n" ++
  "       [OPTIONS] expand FORMAT\n" ++
  "       [OPTIONS] functions\n"

def indented (label margin message : String) : String :=
  let lines := (Text.split '\n' message.toList).map String.ofList
  label ++ ("\n" ++ margin).intercalate lines

def fivePlaces (n : Nat) : String :=
  let digits := toString n
  String.ofList (List.replicate (5 - digits.length) ' ') ++ digits

def report (f : Failure) : String :=
  match f.messages with
  | [] => ""
  | [only] => "Error: " ++ only ++ "\n"
  | [outer, cause] =>
    "Error: " ++ outer ++ "\n\nCaused by:\n" ++ indented "    " "    " cause ++ "\n"
  | outer :: causes =>
    let numbered := causes.zipIdx.map fun (cause, i) =>
      indented (fivePlaces i ++ ": ") "       " cause ++ "\n"
    "Error: " ++ outer ++ "\n\nCaused by:\n" ++ String.join numbered

variable {m : Type → Type} [Monad m]

def Request.run (host : Host m Empty) (r : Request) : m Outcome := do
  let c : Context Empty := r.definitions.context r.project
  match r.command with
  | .eval expression exitCode =>
    match ← c.eval host expression with
    | .error f => return ⟨1, "", report f⟩
    | .ok true => return ⟨0, "true\n", ""⟩
    | .ok false => return ⟨if exitCode then 1 else 0, "false\n", ""⟩
  | .expand format =>
    match ← c.expand host format with
    | .error f => return ⟨1, "", report f⟩
    | .ok s => return ⟨0, s ++ "\n", ""⟩
  | .functions => return ⟨0, String.join (c.functions.sortedNames.map (· ++ "\n")), ""⟩

def run (host : Host m Empty) (arguments : List String) : m Outcome :=
  match Request.read arguments with
  | some r => r.run host
  | none => return ⟨2, "", usage⟩

end Descriptor.CommandLine
