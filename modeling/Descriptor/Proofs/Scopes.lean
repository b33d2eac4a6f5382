import Descriptor.Proofs.History
import Descriptor.Proofs.Resolution
/-!
Nested scopes. However a scope is left, nothing local is behind it, and of the rest only the globals
have changed, by the operations on them that were carried out and by nothing else. Which operations
these are is said by rules of their own, one for each operation, to which every run keeps.
-/
namespace Descriptor

/- What comes next may hang on the answers. At any place all may end, well or with a failure; a
failure in a scope further in is an answer, too, and may be handled or handed on. -/
inductive Script (X : Type)
  | finish (outcome : Except Failure Unit)
  | inspect (next : Context X → Script X)
  | locals (s : SymbolTable.Step) (next : Option Value → Script X)
  | globals (s : SymbolTable.Step) (next : Option Value → Script X)
  | define (name : String) (v : Value) (next : Script X)
  | lookup (name : String) (next : Value → Script X)
  | eval (text : String) (next : Except Failure Bool → Script X)
  | expand (text : String) (next : Except Failure String → Script X)
  | scope (body : Script X) (next : Except Failure Unit → Script X)

inductive Act
  | locals (s : SymbolTable.Step)
  | globals (s : SymbolTable.Step)
  | define (name : String) (v : Value)
  | lookup (name : String)
  | eval (text : String)
  | expand (text : String)
  deriving DecidableEq, Repr

def Act.onGlobals? : Act → Option SymbolTable.Step
  | globals s => some s
  | define name v => some (.single (.insert name v))
  | _ => none

def onGlobals (acts : List Act) : List SymbolTable.Step := acts.filterMap Act.onGlobals?

structure Context.ByGlobals {X : Type} (c : Context X) (acts : List Act) (d : Context X) : Prop where
  functions : d.functions = c.functions
  environment : d.environment = c.environment
  globals : d.globals = SymbolTable.steps c.globals (onGlobals acts)

theorem Context.byGlobalsThen {X : Type} {b c d : Context X} {acts more : List Act}
    (one : b.ByGlobals acts c) (rest : c.ByGlobals more d) : b.ByGlobals (acts ++ more) d where
  functions := rest.functions.trans one.functions
  environment := rest.environment.trans one.environment
  globals := by
    rw [rest.globals, one.globals, onGlobals, onGlobals, onGlobals, List.filterMap_append,
      SymbolTable.steps, SymbolTable.steps, SymbolTable.steps, List.foldl_append]

theorem SymbolTable.stepsInsert (t : SymbolTable) (name : String) (v : Value) :
    steps t [.single (.insert name v)] = t.insert name v := by
  rw [steps, List.foldl_cons, List.foldl_nil, step, change, Keyed.exchangeInsert]

namespace Script
variable {W X : Type}

/- The acts that a script takes from a context and a world on, one behind the other, and how it ends.
A scope is left in the same way whatever its outcome, and takes back nothing but the locals. -/
inductive Leads (host : Host (StateM W) X) :
    Script X → Context X → W → List Act → Except Failure Unit → Context X → W → Prop where
  | finish {outcome c w} : Leads host (.finish outcome) c w [] outcome c w
  | inspect {next c w acts outcome d u} (rest : Leads host (next c) c w acts outcome d u) :
      Leads host (.inspect next) c w acts outcome d u
  | locals {s before t next c w acts outcome d u} (done : SymbolTable.step c.locals s = (before, t))
      (rest : Leads host (next before) { c with locals := t } w acts outcome d u) :
      Leads host (.locals s next) c w (.locals s :: acts) outcome d u
  | globals {s before t next c w acts outcome d u} (done : SymbolTable.step c.globals s = (before, t))
      (rest : Leads host (next before) { c with globals := t } w acts outcome d u) :
      Leads host (.globals s next) c w (.globals s :: acts) outcome d u
  | define {name v next c w acts outcome d u}
      (rest : Leads host next { c with globals := c.globals.insert name v } w acts outcome d u) :
      Leads host (.define name v next) c w (.define name v :: acts) outcome d u
  | lookup {name v next c w w' acts outcome d u} (done : perform (c.lookup host name) w = (v, w'))
      (rest : Leads host (next v) c w' acts outcome d u) :
      Leads host (.lookup name next) c w (.lookup name :: acts) outcome d u
  | eval {text result next c w w' acts outcome d u}
      (done : perform (c.eval host text) w = (result, w'))
      (rest : Leads host (next result) c w' acts outcome d u) :
      Leads host (.eval text next) c w (.eval text :: acts) outcome d u
  | expand {text result next c w w' acts outcome d u}
      (done : perform (c.expand host text) w = (result, w'))
      (rest : Leads host (next result) c w' acts outcome d u) :
      Leads host (.expand text next) c w (.expand text :: acts) outcome d u
  | scope {body next c w acts inner d u more outcome e v} (within : Leads host body c w acts inner d u)
      (rest : Leads host (next inner) { d with locals := .empty } u more outcome e v) :
      Leads host (.scope body next) c w (acts ++ more) outcome e v

def run {m : Type → Type} [Monad m] (host : Host m X) :
    Script X → StateT (Context X) m (Except Failure Unit)
  | finish outcome => return outcome
  | inspect next => do
    let c ← get
    run host (next c)
  | locals s next => do
    let c ← get
    let (before, t) := SymbolTable.step c.locals s
    set { c with locals := t }
    run host (next before)
  | globals s next => do
    let c ← get
    let (before, t) := SymbolTable.step c.globals s
    set { c with globals := t }
    run host (next before)
  | define name v next => do
    modify (·.define name v)
    run host next
  | lookup name next => do
    let c ← get
    let v ← (c.lookup host name : m Value)
    run host (next v)
  | eval text next => do
    let c ← get
    let result ← (c.eval host text : m (Except Failure Bool))
    run host (next result)
  | expand text next => do
    let c ← get
    let result ← (c.expand host text : m (Except Failure String))
    run host (next result)
  | scope body next => do
    let outcome ← Context.inScope (run host body)
    run host (next outcome)

variable (host : Host (StateM W) X)

def play (s : Script X) (c : Context X) (w : W) : (Except Failure Unit × Context X) × W :=
  perform ((s.run host).run c) w

def playScoped (s : Script X) (c : Context X) (w : W) : (Except Failure Unit × Context X) × W :=
  perform ((Context.inScope (s.run host)).run c) w

def alone : List Act → Script X
  | [] => finish (.ok ())
  | .globals s :: acts => globals s fun _ => alone acts
  | .define name v :: acts => define name v (alone acts)
  | _ :: acts => alone acts

theorem playLeads (s : Script X) (c : Context X) (w : W) :
    ∃ acts, Leads host s c w acts (play host s c w).1.1 (play host s c w).1.2 (play host s c w).2 := by
  induction s generalizing c w with
  | finish outcome => exact ⟨[], .finish⟩
  | inspect next ih =>
    obtain ⟨acts, rest⟩ := ih c c w
    exact ⟨acts, .inspect rest⟩
  | locals s next ih =>
    obtain ⟨acts, rest⟩ := ih _ { c with locals := (SymbolTable.step c.locals s).2 } w
    exact ⟨.locals s :: acts, .locals rfl rest⟩
  | globals s next ih =>
    obtain ⟨acts, rest⟩ := ih _ { c with globals := (SymbolTable.step c.globals s).2 } w
    exact ⟨.globals s :: acts, .globals rfl rest⟩
  | define name v next ih =>
    obtain ⟨acts, rest⟩ := ih { c with globals := c.globals.insert name v } w
    exact ⟨.define name v :: acts, .define rest⟩
  | lookup name next ih =>
    obtain ⟨acts, rest⟩ := ih _ c _
    exact ⟨.lookup name :: acts, .lookup rfl rest⟩
  | eval text next ih =>
    obtain ⟨acts, rest⟩ := ih _ c _
    exact ⟨.eval text :: acts, .eval rfl rest⟩
  | expand text next ih =>
    obtain ⟨acts, rest⟩ := ih _ c _
    exact ⟨.expand text :: acts, .expand rfl rest⟩
  | scope body next ihBody ih =>
    obtain ⟨acts, within⟩ := ihBody c w
    obtain ⟨more, rest⟩ := ih _ _ _
    exact ⟨acts ++ more, .scope within rest⟩

variable {host}

theorem leadsUnique {s : Script X} {c d e : Context X} {w u v : W} {acts more : List Act}
    {outcome other : Except Failure Unit} (one : Leads host s c w acts outcome d u)
    (another : Leads host s c w more other e v) :
    more = acts ∧ other = outcome ∧ e = d ∧ v = u := by
  induction one generalizing more other e v with
  | finish =>
    cases another
    exact ⟨rfl, rfl, rfl, rfl⟩
  | inspect _ ih =>
    cases another with
    | inspect rest => exact ih rest
  | locals done _ ih =>
    cases another with
    | locals done' rest =>
      cases done.symm.trans done'
      obtain ⟨rfl, same⟩ := ih rest
      exact ⟨rfl, same⟩
  | globals done _ ih =>
    cases another with
    | globals done' rest =>
      cases done.symm.trans done'
      obtain ⟨rfl, same⟩ := ih rest
      exact ⟨rfl, same⟩
  | define _ ih =>
    cases another with
    | define rest =>
      obtain ⟨rfl, same⟩ := ih rest
      exact ⟨rfl, same⟩
  | lookup done _ ih =>
    cases another with
    | lookup done' rest =>
      cases done.symm.trans done'
      obtain ⟨rfl, same⟩ := ih rest
      exact ⟨rfl, same⟩
  | eval done _ ih =>
    cases another with
    | eval done' rest =>
      cases done.symm.trans done'
      obtain ⟨rfl, same⟩ := ih rest
      exact ⟨rfl, same⟩
  | expand done _ ih =>
    cases another with
    | expand done' rest =>
      cases done.symm.trans done'
      obtain ⟨rfl, same⟩ := ih rest
      exact ⟨rfl, same⟩
  | scope _ _ ihBody ih =>
    cases another with
    | scope within rest =>
      obtain ⟨rfl, rfl, rfl, rfl⟩ := ihBody within
      obtain ⟨rfl, same⟩ := ih rest
      exact ⟨rfl, same⟩

theorem leadsByGlobals {s : Script X} {c d : Context X} {w u : W} {acts : List Act}
    {outcome : Except Failure Unit} (leads : Leads host s c w acts outcome d u) :
    c.ByGlobals acts d := by
  induction leads with
  | finish => exact ⟨rfl, rfl, rfl⟩
  | inspect _ ih => exact ih
  | locals _ _ ih => exact ⟨ih.functions, ih.environment, ih.globals⟩
  | @globals s before t _ c _ _ _ _ _ done _ ih =>
    have one : c.ByGlobals [.globals s] { c with globals := t } :=
      ⟨rfl, rfl, (congrArg Prod.snd done).symm⟩
    exact Context.byGlobalsThen one ih
  | @define name v _ c _ _ _ _ _ _ ih =>
    have one : c.ByGlobals [.define name v] { c with globals := c.globals.insert name v } :=
      ⟨rfl, rfl, (c.globals.stepsInsert name v).symm⟩
    exact Context.byGlobalsThen one ih
  | lookup _ _ ih => exact ⟨ih.functions, ih.environment, ih.globals⟩
  | eval _ _ ih => exact ⟨ih.functions, ih.environment, ih.globals⟩
  | expand _ _ ih => exact ⟨ih.functions, ih.environment, ih.globals⟩
  | @scope _ _ c _ acts _ d _ _ _ _ _ _ _ ihBody ih =>
    have one : c.ByGlobals acts { d with locals := .empty } :=
      ⟨ihBody.functions, ihBody.environment, ihBody.globals⟩
    exact Context.byGlobalsThen one ih

theorem playAlone (acts : List Act) (c : Context X) (w : W) :
    play host (alone acts) c w =
      ((.ok (), { c with globals := SymbolTable.steps c.globals (onGlobals acts) }), w) := by
  induction acts generalizing c with
  | nil => rfl
  | cons act acts ih =>
    cases act with
    | globals s => exact ih { c with globals := (SymbolTable.step c.globals s).2 }
    | define name v =>
      have one := ih (c.define name v)
      have first : SymbolTable.steps c.globals (onGlobals (.define name v :: acts)) =
          SymbolTable.steps (c.define name v).globals (onGlobals acts) :=
        congrArg (SymbolTable.steps · (onGlobals acts)) (c.globals.stepsInsert name v)
      rw [first]
      exact one
    | locals s => exact ih c
    | lookup name => exact ih c
    | eval text => exact ih c
    | expand text => exact ih c

variable (host)

def projected (acts : List Act) (c : Context X) (w : W) : Context X :=
  (play host (alone acts) { c with locals := .empty } w).1.2

structure LeavesNoTrace (s : Script X) (c : Context X) (w : W) (acts : List Act) : Prop where
  taken : ∃ d, Leads host s c w acts (playScoped host s c w).1.1 d (playScoped host s c w).2 ∧
    (playScoped host s c w).1.2 = { d with locals := .empty }
  only : ∀ other, (∃ outcome d u, Leads host s c w other outcome d u) ↔ other = acts
  locals : (playScoped host s c w).1.2.locals = .empty
  environment : (playScoped host s c w).1.2.environment = c.environment
  functions : (playScoped host s c w).1.2.functions = c.functions
  globals : (playScoped host s c w).1.2.globals = SymbolTable.steps c.globals (onGlobals acts)
  same : ∀ v, (playScoped host s c w).1.2 = projected host acts c v
  lookups : ∀ v name, (playScoped host s c w).1.2.lookup host name =
    (projected host acts c v).lookup host name
  later : ∀ v, (playScoped host s c w).1.2.Indistinguishable host (projected host acts c v)

theorem scopesLeaveNoTrace (s : Script X) (c : Context X) (w : W) :
    ∃ acts, LeavesNoTrace host s c w acts := by
  obtain ⟨acts, leads⟩ := playLeads host s c w
  have made := leadsByGlobals leads
  have same (v : W) : (playScoped host s c w).1.2 = projected host acts c v := by
    change ({ (play host s c w).1.2 with locals := .empty } : Context X) = projected host acts c v
    rw [projected, playAlone]
    simp only [made.functions, made.environment, made.globals]
  exact ⟨acts, {
    taken := ⟨_, leads, rfl⟩
    only := fun other => ⟨fun ⟨_, _, _, another⟩ => (leadsUnique leads another).1,
      fun same => ⟨_, _, _, same ▸ leads⟩⟩
    locals := rfl
    environment := made.environment
    functions := made.functions
    globals := made.globals
    same := same
    lookups := fun v name => by rw [same v]
    later := fun v => by
      rw [← same v]
      exact Context.execIndistinguishable rfl }⟩

def failing : Script Unit :=
  .define "a" (.string "1") <| .locals (.single (.insert "b" (.string "2"))) fun _ =>
    .scope (.globals (.single (.append "a" (.string "3"))) fun _ =>
        .locals (.single (.insert "c" (.string "4"))) fun _ =>
          .finish (.error (.of (.other "failed"))))
      fun outcome => .globals (.single (.insert "d" (.string "5"))) fun _ => .finish outcome

theorem scopesLeaveNoTraceOfFailure :
    let c : Context Unit := { bareContext with locals := .ofList [("e", .string "6")] }
    (∃ acts, LeavesNoTrace bareHost failing c () acts ∧
      onGlobals acts = [.single (.insert "a" (.string "1")), .single (.append "a" (.string "3")),
        .single (.insert "d" (.string "5"))]) ∧
      (playScoped bareHost failing c ()).1.1 = .error (.of (.other "failed")) ∧
      (playScoped bareHost failing c ()).1.2.locals = .empty ∧
      (playScoped bareHost failing c ()).1.2.globals.entries =
        [("a", ⟨.string, ["1", "3"]⟩), ("d", .string "5")] := by
  intro c
  obtain ⟨acts, trace⟩ := scopesLeaveNoTrace bareHost failing c ()
  have leads : ∃ outcome d u, Leads bareHost failing c () (.define "a" (.string "1") ::
      .locals (.single (.insert "b" (.string "2"))) ::
      ([.globals (.single (.append "a" (.string "3"))), .locals (.single (.insert "c" (.string "4")))] ++
        [.globals (.single (.insert "d" (.string "5")))])) outcome d u :=
    ⟨_, _, _, .define (.locals rfl (.scope (.globals rfl (.locals rfl .finish)) (.globals rfl .finish)))⟩
  obtain rfl := (trace.only _).mp leads
  refine ⟨⟨_, trace, rfl⟩, by decide +kernel, trace.locals, ?_⟩
  rw [trace.globals]
  decide +kernel

end Script
end Descriptor
