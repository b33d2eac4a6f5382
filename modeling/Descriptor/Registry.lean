import Descriptor.Builtin
import Descriptor.Keyed
/-!
Registries of functions. A name that is registered calls its function; every other name is that of
a symbol.
-/
namespace Descriptor

inductive Function (X : Type)
  | builtin (b : Builtin)
  | extension (x : X)
  deriving DecidableEq, Repr

structure DuplicateFunction where
  name : String
  deriving DecidableEq, Repr

def DuplicateFunction.message (e : DuplicateFunction) : String :=
  "function '" ++ e.name ++ "' is already registered"

abbrev Registry (X : Type) := Keyed (Function X)

namespace Registry

variable {X : Type}

def builtins : Registry X :=
  ⟨Builtin.all.map fun b => (b.name, .builtin b), by
    rw [List.map_map]; exact Builtin.namesDistinct⟩

def register (r : Registry X) (name : String) (f : Function X) :
    Except DuplicateFunction (Registry X) :=
  if r.contains name then .error ⟨name⟩ else .ok (r.insert name f)

def unregister (r : Registry X) (name : String) : Option (Function X) × Registry X :=
  Keyed.remove r name

inductive Operation (X : Type)
  | register (name : String) (f : Function X)
  | unregister (name : String)
  deriving DecidableEq, Repr

inductive Answer (X : Type)
  | registered
  | refused (e : DuplicateFunction)
  | unregistered (before : Option (Function X))
  deriving DecidableEq, Repr

def step (r : Registry X) : Operation X → Answer X × Registry X
  | .register name f =>
    match register r name f with
    | .ok r => (.registered, r)
    | .error e => (.refused e, r)
  | .unregister name =>
    let (before, r) := unregister r name
    (.unregistered before, r)

def steps (r : Registry X) (ops : List (Operation X)) : Registry X :=
  ops.foldl (fun r op => (step r op).2) r

def sortedNames (r : Registry X) : List String :=
  r.names.mergeSort (· ≤ ·)

end Registry
end Descriptor
