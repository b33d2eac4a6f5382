import Descriptor.Proofs.Levels
import Descriptor.Template
/-!
Where a symbol is kept does not matter, only what its name resolves to. Conditions and templates see
a context through its functions, and the functions of the language see it through the resolution of
names; so contexts in which all names resolve alike cannot be told apart.
-/
namespace Descriptor
open Condition

inductive Scope
  | locals | globals | environment
  deriving DecidableEq, Repr

def Scope.depth : Scope → Nat
  | locals => 0
  | globals => 1
  | environment => 2

namespace Context
variable {W X : Type}

def table (c : Context X) : Scope → SymbolTable
  | .locals => c.locals
  | .globals => c.globals
  | .environment => c.environment

def withTable (c : Context X) (scope : Scope) (t : SymbolTable) : Context X :=
  match scope with
  | .locals => { c with locals := t }
  | .globals => { c with globals := t }
  | .environment => { c with environment := t }

theorem tableWith (c : Context X) (scope other : Scope) (t : SymbolTable) :
    (c.withTable scope t).table other = if other = scope then t else c.table other := by
  cases scope <;> cases other <;> rfl

theorem symbolOfTables (c : Context X) (name : String) : c.symbol? name =
    (((c.table .locals).get? name).or ((c.table .globals).get? name)).or
      ((c.table .environment).get? name) := rfl

def move (c : Context X) (name : String) (v : Value) (source target : Scope) : Context X :=
  let without := c.withTable source ((c.table source).erase name)
  without.withTable target ((without.table target).insert name v)

theorem tableMoved (c : Context X) (name : String) (v : Value) (source target scope : Scope)
    (other : String) : ((c.move name v source target).table scope).get? other =
      if other = name ∧ scope = target then some v
      else if other = name ∧ scope = source then none
      else (c.table scope).get? other := by
  have erased : ((c.withTable source ((c.table source).erase name)).table scope).get? other =
      if other = name ∧ scope = source then none else (c.table scope).get? other := by
    rw [tableWith]
    by_cases here : scope = source
    · subst here
      simp [Keyed.getErase]
    · simp [here]
  rw [move, tableWith]
  by_cases there : scope = target
  · subst there
    rw [if_pos rfl, Keyed.getInsert, erased]
    simp
  · rw [if_neg there, erased]
    simp [there]

def Unshadowed (c : Context X) (name : String) (v : Value) (source target : Scope) : Prop :=
  (c.table source).get? name = some v ∧ ∀ scope, scope ≠ source →
    scope.depth < max source.depth target.depth → (c.table scope).get? name = none

theorem symbolMoved {c : Context X} {name : String} {v : Value} {source target : Scope}
    (unshadowed : c.Unshadowed name v source target) (other : String) :
    (c.move name v source target).symbol? other = c.symbol? other := by
  obtain ⟨defined, before⟩ := unshadowed
  simp only [symbolOfTables, tableMoved]
  by_cases moved : other = name
  · subst moved
    have locals := before .locals
    have globals := before .globals
    have environment := before .environment
    cases source <;> cases target <;> simp_all [Scope.depth]
  · simp [moved]

theorem symbolReordered {c d : Context X}
    (same : ∀ scope, (c.table scope).entries.Perm (d.table scope).entries) (name : String) :
    c.symbol? name = d.symbol? name := by
  have locals : c.locals.get? name = d.locals.get? name := Keyed.getOfPerm (same .locals) name
  have globals : c.globals.get? name = d.globals.get? name :=
    Keyed.getOfPerm (same .globals) name
  have environment : c.environment.get? name = d.environment.get? name :=
    Keyed.getOfPerm (same .environment) name
  rw [symbol?, symbol?, locals, globals, environment]

/- Nothing that evaluation can do tells the contexts apart, wherever it begins. -/
structure Indistinguishable (host : Host (StateM W) X) (c d : Context X) : Prop where
  eval : ∀ text w, perform (c.eval host text) w = perform (d.eval host text) w
  expand : ∀ text w, perform (c.expand host text) w = perform (d.expand host text) w
  evaluations : ∀ n k w, repeated (stateRuns.run (Tokenizer.evaluate (c.exec host))) n (k, w) =
    repeated (stateRuns.run (Tokenizer.evaluate (d.exec host))) n (k, w)
  tokens : ∀ n k w, repeated (stateRuns.run (Tokenizer.next (c.exec host))) n (k, w) =
    repeated (stateRuns.run (Tokenizer.next (d.exec host))) n (k, w)

variable {host : Host (StateM W) X} {c d : Context X}

theorem execIndistinguishable (same : c.exec host = d.exec host) :
    Indistinguishable host c d where
  eval text w := by rw [Context.eval, Context.eval, same]
  expand text w := by rw [Context.expand, Context.expand, same]
  evaluations n k w := by rw [same]
  tokens n k w := by rw [same]

theorem builtinResolves (same : c.lookup host = d.lookup host) (b : Builtin) (ps : Parameters) :
    b.run host c ps = b.run host d ps := by
  unfold Builtin.run
  rw [same]

theorem execResolves (registry : d.functions = c.functions)
    (builtins : ∀ name f, c.functions.get? name = some f → ∃ b, f = .builtin b)
    (same : c.lookup host = d.lookup host) : c.exec host = d.exec host := by
  funext id ps
  rw [exec, exec, registry, same]
  split
  · rename_i f registered
    obtain ⟨b, rfl⟩ := builtins id.name f registered
    rw [Function.run, Function.run, builtinResolves same]
  · rfl

theorem lookupOfSymbols (same : ∀ name, c.symbol? name = d.symbol? name) :
    c.lookup host = d.lookup host := by
  funext name
  rw [lookup, lookup, same]

theorem lookupSteady (steady : ∀ name w, (perform (host.osVariable? name) w).2 = w)
    (c : Context X) (name : String) (w : W) : (perform (c.lookup host name) w).2 = w := by
  unfold lookup
  split
  · rfl
  · have kept := steady name w
    rw [performBind]
    generalize perform (host.osVariable? name) w = o at kept
    obtain ⟨_ | s, w'⟩ := o
    · exact kept
    · exact kept

theorem lookupOfValues (steady : ∀ name w, (perform (host.osVariable? name) w).2 = w)
    (same : ∀ name w, (perform (c.lookup host name) w).1 = (perform (d.lookup host name) w).1) :
    c.lookup host = d.lookup host := by
  funext name w
  have kept : (perform (c.lookup host name) w).2 = (perform (d.lookup host name) w).2 := by
    rw [lookupSteady steady, lookupSteady steady]
  exact Prod.ext (same name w) kept

theorem symbolsSeenThroughResolution (host : Host (StateM W) X) (c : Context X)
    (builtins : ∀ name f, c.functions.get? name = some f → ∃ b, f = .builtin b) :
    (∀ d : Context X, d.functions = c.functions →
      (∀ name w, (perform (host.osVariable? name) w).2 = w) →
      (∀ name w, (perform (c.lookup host name) w).1 = (perform (d.lookup host name) w).1) →
      Indistinguishable host c d) ∧
    (∀ d : Context X, d.functions = c.functions →
      (∀ scope, (c.table scope).entries.Perm (d.table scope).entries) →
      Indistinguishable host c d) ∧
    ∀ name v source target, c.Unshadowed name v source target →
      Indistinguishable host c (c.move name v source target) := by
  refine ⟨?_, ?_, ?_⟩
  · intro d registry steady same
    exact execIndistinguishable (execResolves registry builtins (lookupOfValues steady same))
  · intro d registry reordered
    have same : c.lookup host = d.lookup host := lookupOfSymbols (symbolReordered reordered)
    exact execIndistinguishable (execResolves registry builtins same)
  · intro name v source target unshadowed
    have registry : (c.move name v source target).functions = c.functions := by
      cases source <;> cases target <;> rfl
    have same : c.lookup host = (c.move name v source target).lookup host :=
      lookupOfSymbols fun other => (symbolMoved unshadowed other).symm
    exact execIndistinguishable (execResolves registry builtins same)

def homeHost : Host (StateM W) Unit :=
  { bareHost with osVariable? := fun name => pure (if name = "HOME" then some "/root" else none) }

def holding (locals environment : List (String × Value)) : Context Unit :=
  { ofEnvironment .builtins (.ofList environment) with locals := .ofList locals }

theorem symbolsSeenOfHome :
    Indistinguishable (homeHost (W := Unit)) (holding [] [])
      (holding [("HOME", .string "/root")] []) ∧
    Indistinguishable (homeHost (W := Unit)) (holding [] [("a", .int 1), ("b", .int 2)])
      (holding [] [("b", .int 2), ("a", .int 1)]) ∧
    Indistinguishable (homeHost (W := Unit)) (holding [("a", .int 1)] [("a", .int 2)])
      ((holding [("a", .int 1)] [("a", .int 2)]).move "a" (.int 1) .locals .environment) := by
  have builtins (l e : List (String × Value)) (name : String) (f : Function Unit)
      (registered : (holding l e).functions.get? name = some f) : ∃ b, f = .builtin b := by
    have mem := (Keyed.getIff _).mp registered
    obtain ⟨b, -, same⟩ := List.mem_map.mp mem
    exact ⟨b, (congrArg Prod.snd same).symm⟩
  refine ⟨?_, ?_, ?_⟩
  · refine (symbolsSeenThroughResolution homeHost _ (builtins _ _)).1 _ rfl (fun _ _ => rfl) ?_
    intro name w
    by_cases home : name = "HOME"
    · subst home
      rfl
    · have absent : (Keyed.empty.insert "HOME" (Value.string "/root")).get? name = none := by
        rw [Keyed.getInsert, if_neg home]
        rfl
      have unbound : (holding [("HOME", .string "/root")] []).symbol? name = none := by
        change (((Keyed.empty.insert "HOME" (Value.string "/root")).get? name).or none).or none = none
        rw [absent]
        rfl
      have same : (holding [] []).lookup (homeHost (W := Unit)) name =
          (holding [("HOME", .string "/root")] []).lookup homeHost name := by
        rw [lookup, lookup, unbound]
        rfl
      rw [same]
  · refine (symbolsSeenThroughResolution homeHost _ (builtins _ _)).2.1 _ rfl ?_
    intro scope
    cases scope with
    | locals => exact .refl _
    | globals => exact .refl _
    | environment => exact .swap ..
  · refine (symbolsSeenThroughResolution homeHost _ (builtins _ _)).2.2 _ _ _ _ ⟨rfl, ?_⟩
    intro scope other nearer
    cases scope with
    | locals => contradiction
    | globals => rfl
    | environment => exact absurd nearer (by decide)

end Context
end Descriptor
