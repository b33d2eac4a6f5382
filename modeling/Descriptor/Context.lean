import Descriptor.Registry
import Descriptor.SymbolTable
/-!
Contexts: what conditions and templates are evaluated in. A symbol is looked up in three tables,
the innermost first.
-/
namespace Descriptor

structure Context (X : Type) where
  functions : Registry X
  environment : SymbolTable
  globals : SymbolTable
  locals : SymbolTable

namespace Context

variable {X : Type}

def ofEnvironment (functions : Registry X) (environment : SymbolTable) : Context X :=
  ⟨functions, environment, .empty, .empty⟩

def symbol? (c : Context X) (name : String) : Option Value :=
  ((c.locals.get? name).or (c.globals.get? name)).or (c.environment.get? name)

def define (c : Context X) (name : String) (v : Value) : Context X :=
  { c with globals := c.globals.insert name v }

def leaveScope (c : Context X) : Context X :=
  { c with locals := .empty }

def inScope {m : Type → Type} [Monad m] {α : Type} (body : StateT (Context X) m α) :
    StateT (Context X) m α := do
  let a ← body
  modify leaveScope
  return a

end Context
end Descriptor
