import Descriptor.Definition
import Descriptor.Proofs.Accumulation
import Descriptor.Proofs.History
import Descriptor.Proofs.Resolution
/-!
Contexts that are built of definitions. Of the definitions of a name in one place the last one counts,
and of the places the innermost one; the attributes of the project stand between the global
definitions and the environment.
-/
namespace Descriptor

namespace Keyed
variable {α : Type}

def latest (name : String) (es : List (String × α)) : Option α :=
  ((es.filter (·.1 = name)).getLast?).map Prod.snd

theorem latestAppend (name : String) (es fs : List (String × α)) :
    latest name (es ++ fs) = (latest name fs).or (latest name es) := by
  rw [latest, List.filter_append, List.getLast?_append, Option.map_or, latest, latest]

theorem latestSingle (name : String) (e : String × α) :
    latest name [e] = if e.1 = name then some e.2 else none := by
  by_cases here : e.1 = name
  · simp [latest, here]
  · simp [latest, here]

theorem insertAllGet (k : Keyed α) (es : List (String × α)) (name : String) :
    (k.insertAll es).get? name = (latest name es).or (k.get? name) := by
  induction es generalizing k with
  | nil => rfl
  | cons e es ih =>
    have more : k.insertAll (e :: es) = (k.insert e.1 e.2).insertAll es := rfl
    rw [more, ih, getInsert, ← List.singleton_append, latestAppend, latestSingle, Option.or_assoc]
    by_cases here : e.1 = name
    · simp [here]
    · simp [here, Ne.symm here]

end Keyed

namespace Project

def attributes : List String :=
  ["organization", "project", "project_type", "version", "naming_convention", "config", "type"]

def attribute? (p : Project) (name : String) : Option Value :=
  match name with
  | "organization" => some (.string p.organization)
  | "project" => some (.string p.name)
  | "project_type" => some (.string p.type)
  | "version" => some (.version p.version)
  | "naming_convention" => some (.string p.namingConvention)
  | "config" => some (.string p.buildConfig)
  | "type" => some (.string p.buildType)
  | _ => none

theorem attributesNamed (p : Project) : (Keyed.ofList p.symbols).names = attributes := by
  rfl

theorem attributesGet (p : Project) (name : String) :
    (Keyed.ofList p.symbols).get? name = p.attribute? name := by
  have entries : (Keyed.ofList p.symbols).entries = p.symbols := by rfl
  rw [Keyed.get?, entries]
  unfold attribute?
  split
  iterate 7
    · rfl
  · rename_i other
    simp_all [symbols, Keyed.lookupCons]

end Project

namespace Definitions
variable {m : Type → Type} [Monad m] {X : Type}

def last (name : String) (ds : List Definition) : Option Value :=
  ((ds.filter (·.name = name)).getLast?).map Definition.value

theorem lastEntries (name : String) (ds : List Definition) :
    Keyed.latest name (ds.map Definition.entry) = last name ds := by
  simp only [Keyed.latest, last, List.filter_map, List.getLast?_map, Option.map_map]
  rfl

def resolve (d : Definitions) (p : Project) (name : String) : Option Value :=
  (last name d.locals).or <| (last name d.globals).or <| (p.attribute? name).or <|
    last name d.environment

theorem tableOfDefinitions (t : SymbolTable) (ds : List Definition) (name : String) :
    (t.insertAll (ds.map Definition.entry)).get? name = (last name ds).or (t.get? name) := by
  rw [Keyed.insertAllGet, lastEntries]

theorem environmentGet (d : Definitions) (p : Project) (name : String) :
    (d.context p : Context X).environment.get? name = last name d.environment := by
  have built := tableOfDefinitions .empty d.environment name
  rwa [Keyed.getEmpty, Option.or_none] at built

theorem localsGet (d : Definitions) (p : Project) (name : String) :
    (d.context p : Context X).locals.get? name = last name d.locals := by
  have built := tableOfDefinitions .empty d.locals name
  rwa [Keyed.getEmpty, Option.or_none] at built

theorem globalsGet (d : Definitions) (p : Project) (name : String) :
    (d.context p : Context X).globals.get? name = (last name d.globals).or (p.attribute? name) := by
  have built := tableOfDefinitions (.ofList p.symbols) d.globals name
  rwa [Project.attributesGet] at built

theorem contextSymbol (d : Definitions) (p : Project) (name : String) :
    (d.context p : Context X).symbol? name = d.resolve p name := by
  rw [Context.symbol?, localsGet, globalsGet, environmentGet, resolve, Option.or_assoc,
    Option.or_assoc]

theorem globalNames (d : Definitions) (p : Project) :
    (d.context p : Context X).globals.names = Project.attributes ++
      ((d.globals.map Definition.name).filter (· ∉ Project.attributes)).eraseDups := by
  have names := Keyed.namesInserted (fun _ e => e.2) (Keyed.ofList p.symbols)
    (d.globals.map Definition.entry)
  rw [Project.attributesNamed, List.map_map] at names
  exact names

end Definitions

theorem Context.lookupOfSymbol {m : Type → Type} [Monad m] {X : Type} (host : Host m X)
    (c : Context X) (name : String) : c.lookup host name = (c.symbol? name).getDM
      (do return ((← host.osVariable? name).map .string).getD .unknown) := by
  unfold Context.lookup
  cases c.symbol? name with
  | some v => rfl
  | none =>
    refine congrArg (host.osVariable? name >>= ·) (funext fun o => ?_)
    cases o with
    | some s => rfl
    | none => rfl

namespace Definitions
variable {m : Type → Type} [Monad m] {X : Type}

/- The same definitions in each place, those of one name in the same order. The definitions of
different names may be anywhere among each other. -/
def Reordered (d e : Definitions) : Prop :=
  ∀ place ∈ [environment, globals, locals], ∀ name,
    (place d).filter (·.name = name) = (place e).filter (·.name = name)

variable {d e : Definitions}

theorem lastReordered (same : Reordered d e) {place : Definitions → List Definition}
    (mem : place ∈ [environment, globals, locals]) (name : String) :
    last name (place d) = last name (place e) := by
  rw [last, last, same place mem]

theorem tablesReordered (same : Reordered d e) (p : Project) (scope : Scope) (name : String) :
    ((d.context p : Context X).table scope).get? name =
      ((e.context p : Context X).table scope).get? name := by
  cases scope with
  | locals =>
    simp only [Context.table, localsGet]
    exact lastReordered same (by simp) name
  | globals =>
    simp only [Context.table, globalsGet]
    rw [lastReordered same (by simp)]
  | environment =>
    simp only [Context.table, environmentGet]
    exact lastReordered same (by simp) name

structure Resolves (host : Host m X) (d : Definitions) (p : Project) : Prop where
  lookup : ∀ name, (d.context p).lookup host name = (d.resolve p name).getDM
    (do return ((← host.osVariable? name).map .string).getD .unknown)
  globals : (d.context p : Context X).globals.names = Project.attributes ++
    ((d.globals.map Definition.name).filter (· ∉ Project.attributes)).eraseDups

theorem contextResolves (host : Host m X) (p : Project) : (∀ d, Resolves host d p) ∧
    ∀ d e, Reordered d e →
      (∀ name, (d.context p).lookup host name = (e.context p).lookup host name) ∧
      ∀ scope, ((d.context p : Context X).table scope).same ((e.context p : Context X).table scope) := by
  constructor
  · intro d
    refine ⟨?_, globalNames d p⟩
    intro name
    rw [Context.lookupOfSymbol, contextSymbol]
  · intro d e same
    constructor
    · intro name
      rw [Context.lookupOfSymbol, Context.lookupOfSymbol, Context.symbolOfTables,
        Context.symbolOfTables]
      simp only [tablesReordered same]
    · intro scope
      exact (Keyed.sameIff _ _).mpr (tablesReordered same p scope)

theorem filterSwapped {a b : Definition} (different : a.name ≠ b.name) (front back : List Definition)
    (name : String) : (front ++ a :: b :: back).filter (·.name = name) =
      (front ++ b :: a :: back).filter (·.name = name) := by
  by_cases first : a.name = name
  · have second : b.name ≠ name := fun same => different (first.trans same.symm)
    simp [first, second]
  · simp [List.filter_cons, first]

def layered (globals : List Definition) : Definitions :=
  ⟨[⟨"config", .string "hidden"⟩, ⟨"root", .string "/env"⟩], globals, [⟨"file", .string "a.cpp"⟩]⟩

def interleaved : Definitions :=
  layered [⟨"a", .int 1⟩, ⟨"version", .string "2"⟩, ⟨"a", .int 3⟩]

def apart : Definitions :=
  layered [⟨"version", .string "2"⟩, ⟨"a", .int 1⟩, ⟨"a", .int 3⟩]

theorem contextResolvesLayered :
    (interleaved.context .blank).lookup (Context.homeHost (W := Unit)) "a" = pure (.int 3) ∧
      (interleaved.context .blank).lookup (Context.homeHost (W := Unit)) "version" =
        pure (.string "2") ∧
      (interleaved.context .blank).lookup (Context.homeHost (W := Unit)) "config" =
        pure (.string "") ∧
      (interleaved.context .blank).lookup (Context.homeHost (W := Unit)) "HOME" =
        pure (.string "/root") ∧
      (interleaved.context .blank : Context Unit).globals.names = Project.attributes ++ ["a"] ∧
      (interleaved.context .blank).lookup (Context.homeHost (W := Unit)) "a" =
        (apart.context .blank).lookup Context.homeHost "a" := by
  obtain ⟨resolves, reordered⟩ := contextResolves (Context.homeHost (W := Unit)) .blank
  have swapped : Reordered interleaved apart := by
    intro place mem name
    simp only [List.mem_cons, List.not_mem_nil, or_false] at mem
    obtain rfl | rfl | rfl := mem
    · rfl
    · exact filterSwapped (by decide) [] [⟨"a", .int 3⟩] name
    · rfl
  have found := (resolves interleaved).lookup
  refine ⟨found "a", found "version", found "config", found "HOME", (resolves interleaved).globals, ?_⟩
  exact (reordered interleaved apart swapped).1 "a"

end Definitions
end Descriptor
