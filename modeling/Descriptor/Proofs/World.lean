import Mathlib.Control.Monad.Basic
import Descriptor.Execution
/-!
Calls may do anything to their surroundings. A world is whatever a call can look at or change, and
what a text leads to is told for every kind of world and every state of it.
-/
namespace Descriptor

variable {W α β : Type}

def perform (x : StateM W α) (w : W) : α × W := x.run w

@[simp] theorem performPure (a : α) (w : W) : perform (pure a) w = (a, w) := rfl

@[simp] theorem performBind (x : StateM W α) (f : α → StateM W β) (w : W) :
    perform (x >>= f) w = perform (f (perform x w).1) (perform x w).2 := rfl

theorem performMap (x : StateM W α) (f : α → β) (w : W) :
    perform (f <$> x) w = (f (perform x w).1, (perform x w).2) := rfl

def unknownCalls : Exec (StateM W) := fun _ _ => pure (.ok .unknown)

def ownNames : Exec (StateM W) := fun id _ => pure (.ok (.string id.name))

def bareHost : Host (StateM W) Unit where
  osVariable? _ := pure none
  pathExists _ := pure false
  system := "linux"
  architecture := "x86_64"
  run _ _ _ := pure (.error (.of (.other "failed")))

def bareContext : Context Unit :=
  .ofEnvironment (Registry.builtins.insert "fail" (.extension ())) .empty

end Descriptor
