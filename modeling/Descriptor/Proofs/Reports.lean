import Descriptor.Proofs.Places
/-!
What is reported about a text is true of it, however deep in the text it was found and however much
had been evaluated before. Functions may fail as they like, but a report about a text of their own
would be taken for one about this text.
-/
namespace Descriptor
open Condition
open Scan (Stop Fault)

variable {W : Type}

structure Defect.Located (d : Defect) (text : String) (offset : Nat) (remaining : String) : Prop
    where
  within : offset ≤ text.utf8ByteSize
  boundary : String.Pos.Raw.IsValid text ⟨offset⟩
  stands : ∃ before, text = before ++ remaining ∧ before.utf8ByteSize = offset ∧
    d.Holds before.toList remaining.toList

theorem Defect.Holds.located {d : Defect} {before rest : List Char} (holds : d.Holds before rest) :
    d.Located (String.ofList (before ++ rest)) (String.ofList before).utf8ByteSize
      (String.ofList rest) := by
  have parts : String.ofList (before ++ rest) = String.ofList before ++ String.ofList rest :=
    String.ofList_append
  refine ⟨?_, ?_, String.ofList before, parts, rfl, ?_⟩
  · rw [parts, String.utf8ByteSize_append]
    exact Nat.le_add_right _ _
  · exact String.Pos.Raw.isValid_iff_exists_append.mpr ⟨_, _, parts, rfl⟩
  · rwa [String.toList_ofList, String.toList_ofList]

def Failure.Exact (f : Failure) (text : String) : Prop :=
  ∀ d offset remaining, f.cause = .expression (.malformed d offset remaining) →
    d.Located text offset remaining

def Foreign {α : Type} (x : ExceptT Failure (StateM W) α) : Prop :=
  ∀ w f, (indexRuns.run x w).1 = .error f → ∀ e, f.cause ≠ .expression e

theorem foreignPure {α : Type} (a : α) : Foreign (pure a : ExceptT Failure (StateM W) α) := by
  intro w f failed
  cases failed

theorem foreignChain {α β : Type} {x : ExceptT Failure (StateM W) α}
    {f : α → ExceptT Failure (StateM W) β} (one : Foreign x) (more : ∀ a, Foreign (f a)) :
    Foreign (x >>= f) := by
  intro w failure failed
  rw [indexRuns.chain] at failed
  generalize first : indexRuns.run x w = o at failed
  obtain ⟨e | a, w'⟩ := o
  · cases failed
    exact one w _ (congrArg Prod.fst first)
  · exact more a w' failure failed

theorem foreignLift {α : Type} (x : StateM W α) :
    Foreign (liftM x : ExceptT Failure (StateM W) α) := by
  intro w f failed
  cases failed

theorem foreignRequire (ps : Parameters) (function option : String) :
    Foreign (liftM (ps.require function option) : ExceptT Failure (StateM W) String) := by
  intro w f failed
  change ps.require function option = .error f at failed
  unfold Parameters.require at failed
  split at failed
  · cases failed
  · cases failed
    nofun

theorem foreignKind (s : String) :
    Foreign (liftM (Kind.read s) : ExceptT Failure (StateM W) Kind) := by
  intro w f failed
  change Kind.read s = .error f at failed
  unfold Kind.read at failed
  split at failed
  · cases failed
  · cases failed
    nofun

theorem foreignBuiltin {X : Type} (b : Builtin) (host : Host (StateM W) X) (c : Context X)
    (ps : Parameters) : Foreign (b.run host c ps) := by
  have required := foreignRequire (W := W) ps b.name
  have looked (name : String) := foreignLift (c.lookup host name)
  cases b with
  | true => exact foreignPure _
  | false => exact foreignPure _
  | env =>
    apply foreignChain (required "name")
    intro name
    apply foreignChain (foreignLift (host.osVariable? name))
    intro found
    split
    · exact foreignPure _
    · exact foreignPure _
    · exact foreignPure _
  | defined =>
    apply foreignChain (required "name")
    intro name
    exact foreignChain (looked name) fun _ => foreignPure _
  | value =>
    apply foreignChain (required "type")
    intro type
    apply foreignChain (foreignKind type)
    intro kind
    exact foreignChain (required "value") fun _ => foreignPure _
  | toUpper => exact foreignChain (required "value") fun _ => foreignPure _
  | toLower => exact foreignChain (required "value") fun _ => foreignPure _
  | size =>
    apply foreignChain (required "name")
    intro name
    exact foreignChain (looked name) fun _ => foreignPure _
  | join =>
    apply foreignChain (required "name")
    intro name
    exact foreignChain (looked name) fun _ => foreignPure _
  | «exists» =>
    apply foreignChain (required "path")
    intro path
    exact foreignChain (foreignLift (host.pathExists path)) fun _ => foreignPure _
  | hostOs => exact foreignPure _
  | hostArch => exact foreignPure _

def ForeignCalls (exec : Exec (StateM W)) : Prop :=
  ∀ id ps w f w', perform (exec id ps) w = (.error f, w') → ∀ e, f.cause ≠ .expression e

theorem foreignExec {X : Type} {host : Host (StateM W) X} {c : Context X}
    (foreign : ∀ name x, c.functions.get? name = some (.extension x) → ∀ ps w f w',
      perform (host.run x c ps) w = (.error f, w') → ∀ e, f.cause ≠ .expression e) :
    ForeignCalls (c.exec host) := by
  intro id ps w f w' failed
  unfold Context.exec at failed
  split at failed
  · rename_i function registered
    cases function with
    | builtin b =>
      exact foreignBuiltin b host c ps w f (congrArg Prod.fst failed)
    | extension x => exact foreign id.name x registered ps w f w' failed
  · split at failed
    · cases failed
    · cases failed

section
variable {exec : Exec (StateM W)}

theorem bytesBefore (before rest : List Char) :
    (String.ofList (before ++ rest)).utf8ByteSize - (String.ofList rest).utf8ByteSize =
      (String.ofList before).utf8ByteSize := by
  rw [String.ofList_append, String.utf8ByteSize_append, Nat.add_sub_cancel]

theorem stopExact (foreign : ForeignCalls exec) {whole : List Char} {stop : Stop}
    (origin : stop.From exec whole) : (stop.toFailure whole).Exact (String.ofList whole) := by
  intro d offset remaining cause
  cases stop with
  | fault f =>
    obtain ⟨before, rfl, holds⟩ := origin
    cases cause
    rw [bytesBefore]
    exact holds.located
  | failure e =>
    obtain ⟨id, ps, w, w', failed⟩ := origin
    exact absurd cause (foreign id ps w e w' failed _)

theorem Template.expandRuns (s : List Char) (w : W) :
    perform (expand exec s) w =
      let ((result, _), w') := perform (Scan.text exec (fun _ => false) s) w
      (result.mapError (·.toFailure s), w') := rfl

theorem expandExact (foreign : ForeignCalls exec) {s : List Char} {f : Failure} {w w' : W}
    (failed : perform (Template.expand exec s) w = (.error f, w')) : f.Exact (String.ofList s) := by
  rw [Template.expandRuns] at failed
  generalize read : perform (Scan.text exec (fun _ => false) s) w = o at failed
  obtain ⟨⟨stop | t, n⟩, w₁⟩ := o
  · cases failed
    exact stopExact foreign (Scan.textStopped read [])
  · cases failed

namespace Tokenizer

def Reads (whole : List Char) (k : Tokenizer) : Prop :=
  k.whole = whole ∧ ∃ read, whole = read ++ k.unread

def reporting (whole : List Char) :
    Comparison (Reading (StateM W)) (Reading (StateM W)) (Tokenizer × W) where
  Always s := s.1.Reads whole
  Agree P x _ Q := ∀ s, P s →
    match stateRuns.run x s with
    | (.ok a, s') => Q a s'
    | (.error f, s') => s'.1.Reads whole ∧ f.Exact (String.ofList whole)
  done a holds s before := holds s before
  failed raised holds s before := by
    refine ⟨holds s before, ?_⟩
    intro d offset remaining cause
    cases raised <;> cases cause
  chain {α β P Q R x y f g} one more s before := by
    have first := one s before
    rw [stateRuns.chain]
    generalize stateRuns.run x s = o at first
    obtain ⟨e | a, s'⟩ := o
    · exact first
    · exact more a s' first
  relax agree before behind s holds := by
    have same := agree s (before s holds)
    split at same
    · exact behind _ _ same
    · exact same

theorem scanExact (foreign : ForeignCalls exec) {whole : List Char} {k : Tokenizer} {w : W}
    (reads : k.Reads whole) :
    (stateRuns.run (scan exec) (k, w)).2.1.Reads whole ∧
      ∀ f, (stateRuns.run (scan exec) (k, w)).1 = .error f → f.Exact (String.ofList whole) := by
  obtain ⟨rfl, read, place⟩ := reads
  rw [runScan]
  generalize scanned : perform (Token.scan exec k.unread) w = o
  obtain ⟨⟨result, n⟩, w'⟩ := o
  refine ⟨⟨rfl, read ++ k.unread.take n, by simpa using place⟩, fun f failed => ?_⟩
  cases result with
  | ok t => cases failed
  | error stop =>
    cases failed
    have origin := Token.scanStopped scanned read
    rw [← place] at origin
    exact stopExact foreign origin

theorem sourceExact (foreign : ForeignCalls exec) (whole : List Char) :
    SourcesAgree (reporting (W := W) whole) (source exec) (source exec)
      (fun _ s => s.1.Reads whole) (fun _ _ s => s.1.Reads whole) where
  next _ := by
    intro (k, w) reads
    have unfolded : stateRuns.run (source exec).next (k, w) =
        stateRuns.run (next exec) (k, w) := rfl
    rw [unfolded, runNext]
    cases stack : k.pushed with
    | cons t rest => exact reads
    | nil =>
      obtain ⟨stays, exact⟩ := scanExact foreign (w := w) reads
      generalize stateRuns.run (scan exec) (k, w) = o at stays exact
      obtain ⟨f | t, s'⟩ := o
      · exact ⟨stays, exact f rfl⟩
      · exact stays
  back _ t := fun s reads => reads
  kept reads := reads
  within _ reads := reads
  widen reads := reads
  always reads := reads

theorem evaluationsExact (foreign : ForeignCalls exec) (text : List Char) (w : W) (n : Nat) :
    ∀ f, .error f ∈ (evaluations exec text w n).1 → f.Exact (String.ofList text) := by
  rw [evaluationsLevels exec text (Nat.lt_succ_self _)]
  have one := (equalLevelsAgree (sourceExact foreign text) (text.length + 1)).condition
  have kept (s : Tokenizer × W) (reads : s.1.Reads text) :
      (∀ f, (stateRuns.run (level (source exec) (text.length + 1)).condition s).1 = .error f →
        f.Exact (String.ofList text)) ∧
      (stateRuns.run (level (source exec) (text.length + 1)).condition s).2.1.Reads text := by
    have behind := one s reads
    split at behind
    · rename_i a s' ran
      rw [ran]
      exact ⟨nofun, behind⟩
    · rename_i f s' ran
      rw [ran]
      refine ⟨?_, behind.1⟩
      intro g same
      cases same
      exact behind.2
  have start : (ofText text).Reads text := ⟨rfl, [], rfl⟩
  have answers := (repeatedKeeps (P := fun s : Tokenizer × W => s.1.Reads text)
    (Q := fun a : Except Failure Bool => ∀ f, a = .error f → f.Exact (String.ofList text)) kept n
    (s := (ofText text, w)) start).1
  exact fun f mem => answers _ mem f rfl

end Tokenizer
end

section
variable {X : Type} {host : Host (StateM W) X} {c : Context X}

theorem evalExact (foreign : ForeignCalls (c.exec host)) {text : String} {f : Failure} {w w' : W}
    (failed : perform (c.eval host text) w = (.error f, w')) : f.Exact text := by
  have unfolded : perform (c.eval host text) w =
      let (answer, s) := stateRuns.run (Tokenizer.evaluate (c.exec host)) (.ofText text.toList, w)
      (answer.mapError (·.within (.evaluating text)), s.2) := rfl
  rw [unfolded] at failed
  have once := Tokenizer.evaluationsExact foreign text.toList w 1
  have answers : (Tokenizer.evaluations (c.exec host) text.toList w 1).1 =
      [(stateRuns.run (Tokenizer.evaluate (c.exec host)) (.ofText text.toList, w)).1] := rfl
  rw [answers, String.ofList_toList] at once
  generalize stateRuns.run (Tokenizer.evaluate (c.exec host)) (.ofText text.toList, w) = o at *
  obtain ⟨g | b, s⟩ := o
  · cases failed
    exact once g (List.mem_singleton_self _)
  · cases failed

theorem contextExpandExact (foreign : ForeignCalls (c.exec host)) {text : String} {f : Failure}
    {w w' : W} (failed : perform (c.expand host text) w = (.error f, w')) : f.Exact text := by
  unfold Context.expand at failed
  rw [performBind] at failed
  generalize expanded : perform (Template.expand (c.exec host) text.toList) w = o at failed
  obtain ⟨g | t, w₁⟩ := o
  · cases failed
    have exact := expandExact foreign expanded
    rwa [String.ofList_toList] at exact
  · cases failed

end

theorem reportsExact {X : Type} (host : Host (StateM W) X) (c : Context X)
    (foreign : ∀ name x, c.functions.get? name = some (.extension x) → ∀ ps w f w',
      perform (host.run x c ps) w = (.error f, w') → ∀ e, f.cause ≠ .expression e)
    (text : String) (w : W) (d : Defect) (offset : Nat) (remaining : String) :
    (∀ layers w', perform (c.eval host text) w =
        (.error ⟨layers, .expression (.malformed d offset remaining)⟩, w') →
      d.Located text offset remaining) ∧
    (∀ layers w', perform (c.expand host text) w =
        (.error ⟨layers, .expression (.malformed d offset remaining)⟩, w') →
      d.Located text offset remaining) ∧
    ∀ n layers, .error ⟨layers, .expression (.malformed d offset remaining)⟩ ∈
        (Tokenizer.evaluations (c.exec host) text.toList w n).1 →
      d.Located text offset remaining := by
  have calls := foreignExec foreign
  refine ⟨?_, ?_, ?_⟩
  · intro layers w' failed
    exact evalExact calls failed d offset remaining rfl
  · intro layers w' failed
    exact contextExpandExact calls failed d offset remaining rfl
  · intro n layers mem
    have exact := Tokenizer.evaluationsExact calls text.toList w n _ mem
    rw [String.ofList_toList] at exact
    exact exact d offset remaining rfl

theorem reportsBehindWideCharacters :
    (perform (bareContext.eval bareHost "é == 'a") () =
        (.error ⟨[.evaluating "é == 'a"], .expression (.malformed .unterminatedQuote 6 "'a")⟩, ()) ∧
      Defect.unterminatedQuote.Located "é == 'a" 6 "'a") ∧
    (perform (bareContext.expand bareHost "é$(join -name:\\x)") () =
        (.error ⟨[.expanding "é$(join -name:\\x)"],
          .expression (.malformed (.invalidEscape 'x') 15 "\\x)")⟩, ()) ∧
      (Defect.invalidEscape 'x').Located "é$(join -name:\\x)" 15 "\\x)") ∧
    (Tokenizer.evaluations (bareContext.exec bareHost) "$(x) | $(fail) $( )".toList () 3).1 =
        [.error ⟨[], .expression (.malformed (.incompleteOperator '|') 5 "| $(fail) $( )")⟩,
          .error ⟨[], .other "failed"⟩,
          .error ⟨[], .expression (.malformed .missingIdentifier 18 ")")⟩] ∧
      Defect.missingIdentifier.Located "$(x) | $(fail) $( )" 18 ")" := by
  have evaluated : perform (bareContext.eval bareHost "é == 'a") () = (.error
      ⟨[.evaluating "é == 'a"], .expression (.malformed .unterminatedQuote 6 "'a")⟩, ()) := by
    decide +kernel
  have expanded : perform (bareContext.expand bareHost "é$(join -name:\\x)") () =
      (.error ⟨[.expanding "é$(join -name:\\x)"],
        .expression (.malformed (.invalidEscape 'x') 15 "\\x)")⟩, ()) := by decide +kernel
  have answers :
      (Tokenizer.evaluations (bareContext.exec bareHost) "$(x) | $(fail) $( )".toList () 3).1 =
        [.error ⟨[], .expression (.malformed (.incompleteOperator '|') 5 "| $(fail) $( )")⟩,
          .error ⟨[], .other "failed"⟩,
          .error ⟨[], .expression (.malformed .missingIdentifier 18 ")")⟩] := by decide +kernel
  have foreign : ∀ name x, bareContext.functions.get? name = some (.extension x) →
      ∀ ps (w : Unit) f w', perform (bareHost.run x bareContext ps) w = (.error f, w') →
        ∀ e, f.cause ≠ .expression e := by
    intro name x _ ps w f w' failed
    cases failed
    nofun
  refine ⟨⟨evaluated, ?_⟩, ⟨expanded, ?_⟩, answers, ?_⟩
  · exact (reportsExact bareHost bareContext foreign _ () _ _ _).1 _ _ evaluated
  · exact (reportsExact bareHost bareContext foreign _ () _ _ _).2.1 _ _ expanded
  · refine (reportsExact bareHost bareContext foreign _ () _ _ _).2.2 3 [] ?_
    rw [answers]
    simp

end Descriptor
