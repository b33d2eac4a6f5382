import Descriptor.Execution
import Descriptor.Proofs.Encoding
import Descriptor.Proofs.History
import Descriptor.Proofs.World
/-!
Registries of functions and how they came about. A name calls what it was last accepted for, unless it
was taken out since; what was done to other names does not matter. While a name is registered no symbol
of that name is seen in calls, and once it is taken out the symbol is seen again.
-/
namespace Descriptor

namespace Keyed
variable {α : Type}

theorem putFresh {name : String} {l : List (String × α)} (fresh : name ∉ l.map Prod.fst) (a : α) :
    put name a l = l ++ [(name, a)] := by
  induction l with
  | nil => rfl
  | cons e l ih =>
    rw [List.map_cons, List.mem_cons, not_or] at fresh
    rw [put, if_neg (Ne.symm fresh.1), ih fresh.2, List.cons_append]

theorem equalEntries {k l : Keyed α} (same : k.entries = l.entries) : k = l := by
  cases k
  cases l
  congr

end Keyed

namespace Registry
variable {X : Type} {r : Registry X}

theorem stepPresent {name : String} (present : r.contains name) (f : Function X) :
    step r (.register name f) = (.refused ⟨name⟩, r) := by
  rw [step, register, if_pos present]

theorem stepAbsent {name : String} (absent : r.contains name = false) (f : Function X) :
    step r (.register name f) = (.registered, r.insert name f) := by
  rw [step, register, if_neg (by simp [absent])]

theorem stepUnregister (r : Registry X) (name : String) :
    step r (.unregister name) = (.unregistered (r.get? name), r.erase name) := by
  rw [step, unregister, Keyed.removeErase]

theorem noneOfAbsent {name : String} (absent : r.contains name = false) : r.get? name = none := by
  simpa [Keyed.contains] using absent

abbrev Event (X : Type) := Operation X × Answer X

def log (r : Registry X) : List (Operation X) → List (Event X)
  | [] => []
  | op :: ops => (op, (step r op).1) :: log (step r op).2 ops

def accepted (name : String) (f : Function X) : Event X := (.register name f, .registered)

def Supersedes (name : String) (e : Event X) : Prop :=
  e.1 = .unregister name ∨ ∃ g, e = accepted name g

/- The name was registered, and neither was it taken out nor registered anew since. -/
def Standing (h : List (Event X)) (name : String) (f : Function X) : Prop :=
  ∃ before after, h = before ++ accepted name f :: after ∧ ∀ e ∈ after, ¬ Supersedes name e

theorem standingLast (h : List (Event X)) (e : Event X) (name : String) (f : Function X) :
    Standing (h ++ [e]) name f ↔ e = accepted name f ∨ Standing h name f ∧ ¬ Supersedes name e := by
  constructor
  · rintro ⟨before, after, whole, later⟩
    cases after using List.reverseRecOn with
    | nil =>
      obtain ⟨-, last⟩ := List.append_inj' whole rfl
      exact .inl (List.singleton_inj.mp last)
    | append_singleton after last =>
      rw [← List.cons_append, ← List.append_assoc] at whole
      obtain ⟨rfl, same⟩ := List.append_inj' whole rfl
      obtain rfl := List.singleton_inj.mp same
      exact .inr ⟨⟨before, after, rfl, fun e mem => later e (List.mem_append_left _ mem)⟩,
        later e (by simp)⟩
  · rintro (rfl | ⟨⟨before, after, rfl, later⟩, other⟩)
    · exact ⟨h, [], rfl, by simp⟩
    · refine ⟨before, after ++ [e], by simp, ?_⟩
      intro d mem
      obtain mem | mem := List.mem_append.mp mem
      · exact later d mem
      · rwa [List.mem_singleton.mp mem]

def Recorded (h : List (Event X)) (r : Registry X) : Prop :=
  ∀ name f, r.get? name = some f ↔ Standing h name f

theorem recordedNil : Recorded [] (.empty : Registry X) := by
  intro name f
  simp [Keyed.getEmpty, Standing]

theorem recordedStep {h : List (Event X)} (recorded : Recorded h r) (op : Operation X) :
    Recorded (h ++ [(op, (step r op).1)]) (step r op).2 := by
  intro name f
  rw [standingLast, ← recorded]
  cases op with
  | register other g =>
    cases there : r.contains other with
    | true =>
      rw [stepPresent there]
      simp [accepted, Supersedes]
    | false =>
      rw [stepAbsent there, Keyed.getInsert]
      by_cases here : name = other
      · subst here
        simp [accepted, Supersedes]
      · simp [accepted, Supersedes, here, Ne.symm here]
  | unregister other =>
    rw [stepUnregister, Keyed.getErase]
    by_cases here : name = other
    · simp [accepted, Supersedes, here]
    · simp [accepted, Supersedes, here, Ne.symm here]

theorem recordedSteps {h : List (Event X)} (recorded : Recorded h r) (ops : List (Operation X)) :
    Recorded (h ++ log r ops) (steps r ops) := by
  induction ops generalizing r h with
  | nil =>
    rw [log, List.append_nil]
    exact recorded
  | cons op ops ih =>
    have rest := ih (recordedStep recorded op)
    rw [List.append_assoc] at rest
    exact rest

theorem recordedFresh (es : List (String × Function X))
    (distinct : ((r.entries ++ es).map Prod.fst).Nodup) :
    (steps r (es.map fun e => .register e.1 e.2)).entries = r.entries ++ es ∧
      log r (es.map fun e => .register e.1 e.2) = es.map fun e => accepted e.1 e.2 := by
  induction es generalizing r with
  | nil => simp [steps, log]
  | cons e es ih =>
    have fresh : e.1 ∉ r.names := by
      intro old
      rw [List.map_append, List.map_cons] at distinct
      exact List.disjoint_of_nodup_append distinct old List.mem_cons_self
    have absent : r.contains e.1 = false := by
      rwa [← Bool.not_eq_true, Keyed.containsIff]
    have behind : (r.insert e.1 e.2).entries = r.entries ++ [e] := Keyed.putFresh fresh e.2
    have more := ih (r := r.insert e.1 e.2) (by simpa [behind] using distinct)
    rw [behind, List.append_assoc, List.singleton_append] at more
    simp only [List.map_cons, steps, List.foldl_cons, log, stepAbsent absent]
    exact ⟨more.1, congrArg (accepted e.1 e.2 :: ·) more.2⟩

def opening : List (Operation X) := Builtin.all.map fun b => .register b.name (.builtin b)

theorem openingAccepted : steps .empty opening = (builtins : Registry X) ∧
    log (.empty : Registry X) opening = Builtin.all.map fun b => accepted b.name (.builtin b) := by
  obtain ⟨entries, log⟩ := recordedFresh (r := .empty) (builtins : Registry X).entries builtins.distinct
  simp only [builtins, List.map_map] at entries log
  exact ⟨Keyed.equalEntries entries, log⟩

theorem builtinsGet (b : Builtin) : (builtins : Registry X).get? b.name = some (.builtin b) := by
  rw [Keyed.getIff]
  exact List.mem_map.mpr ⟨b, b.memAll, rfl⟩

inductive Start
  | empty | builtins
  deriving DecidableEq, Repr

def Start.registry : Start → Registry X
  | empty => .empty
  | builtins => .builtins

def Start.earlier : Start → List (Operation X)
  | empty => []
  | builtins => opening

theorem startSteps (start : Start) : steps .empty start.earlier = (start.registry : Registry X) := by
  cases start with
  | empty => rfl
  | builtins => exact openingAccepted.1

def history (start : Start) (ops : List (Operation X)) : List (Event X) :=
  log .empty (start.earlier ++ ops)

def reached (start : Start) (ops : List (Operation X)) : Registry X := steps start.registry ops

theorem reachedSteps (start : Start) (ops : List (Operation X)) :
    reached start ops = steps .empty (start.earlier ++ ops) := by
  rw [reached, ← startSteps, steps, steps, steps, List.foldl_append]

theorem reachedRecorded (start : Start) (ops : List (Operation X)) :
    Recorded (history start ops) (reached start ops) := by
  have recorded := recordedSteps recordedNil (start.earlier ++ ops)
  rwa [List.nil_append, ← reachedSteps] at recorded

def Operation.effect (name : String) : Operation X → Option (Function X) → Option (Function X)
  | .register other f, before => if name = other then before.or (some f) else before
  | .unregister other, before => if name = other then none else before

def Operation.name : Operation X → String
  | .register name _ | .unregister name => name

theorem stepGet (r : Registry X) (op : Operation X) (name : String) :
    (step r op).2.get? name = op.effect name (r.get? name) := by
  cases op with
  | register other f =>
    cases there : r.contains other with
    | true =>
      obtain ⟨g, found⟩ := Option.isSome_iff_exists.mp there
      rw [stepPresent there, Operation.effect]
      split
      · rename_i here
        rw [here, found]
        rfl
      · rfl
    | false =>
      rw [stepAbsent there, Keyed.getInsert, Operation.effect]
      split
      · rename_i here
        rw [here, noneOfAbsent there]
        rfl
      · rfl
  | unregister other =>
    rw [stepUnregister, Keyed.getErase]
    rfl

theorem stepsGet (r : Registry X) (ops : List (Operation X)) (name : String) :
    (steps r ops).get? name = ops.foldl (fun before op => op.effect name before) (r.get? name) := by
  induction ops generalizing r with
  | nil => rfl
  | cons op ops ih =>
    rw [List.foldl_cons, ← stepGet]
    exact ih _

def concerning (name : String) (ops : List (Operation X)) : List (Operation X) :=
  ops.filter (·.name = name)

theorem Operation.effectElsewhere {name : String} {op : Operation X} (elsewhere : op.name ≠ name)
    (before : Option (Function X)) : op.effect name before = before := by
  cases op with
  | register other f => exact if_neg (Ne.symm elsewhere)
  | unregister other => exact if_neg (Ne.symm elsewhere)

theorem stepsConcerning (r : Registry X) (ops : List (Operation X)) (name : String) :
    (steps r (concerning name ops)).get? name = (steps r ops).get? name := by
  rw [stepsGet, stepsGet, concerning, List.foldl_filter]
  congr 1
  funext before op
  split
  · rfl
  · rename_i elsewhere
    exact (op.effectElsewhere (by simpa using elsewhere) before).symm

theorem sortedRises (r : Registry X) : r.sortedNames.Pairwise BytesBefore := by
  have ascends : r.sortedNames.Pairwise (· ≤ ·) := by
    have sorted : r.sortedNames.Pairwise fun m n => decide (m ≤ n) := List.pairwise_mergeSort
      (fun l m n one more => by simpa using le_trans (of_decide_eq_true one) (of_decide_eq_true more))
      (fun m n => by simpa using le_total m n) r.names
    exact sorted.imp of_decide_eq_true
  have nodup : r.sortedNames.Nodup := (List.mergeSort_perm r.names _).nodup_iff.mpr r.distinct
  refine ascends.imp₂ ?_ nodup
  intro m n less different
  exact bytesBeforeIff.mpr (lt_of_le_of_ne less different)

theorem memSorted (r : Registry X) (name : String) : name ∈ r.sortedNames ↔ r.contains name := by
  rw [Keyed.containsIff, sortedNames, List.mem_mergeSort]

theorem risingUnique {l k : List String} (rising : l.Pairwise BytesBefore)
    (rising' : k.Pairwise BytesBefore) (same : ∀ name, name ∈ l ↔ name ∈ k) : l = k := by
  have nodup {l : List String} (rising : l.Pairwise BytesBefore) : l.Nodup :=
    rising.imp fun before => ne_of_lt (bytesBeforeIff.mp before)
  refine List.Perm.eq_of_pairwise ?_ rising rising'
    ((List.perm_ext_iff_of_nodup (nodup rising) (nodup rising')).mpr same)
  intro m n _ _ before after
  exact absurd (bytesBeforeIff.mp before) (lt_asymm (bytesBeforeIff.mp after))

theorem sortedIff (r : Registry X) (l : List String) :
    r.sortedNames = l ↔ l.Pairwise BytesBefore ∧ ∀ name, name ∈ l ↔ r.contains name := by
  constructor
  · rintro rfl
    exact ⟨r.sortedRises, r.memSorted⟩
  · rintro ⟨rising, names⟩
    exact risingUnique r.sortedRises rising fun name => (r.memSorted name).trans (names name).symm

section
variable {m : Type → Type} [Monad m]

theorem execExtension (host : Host m X) {c : Context X} {name : String} {x : X}
    (found : c.functions.get? name = some (.extension x)) (i : Option Nat) (ps : Parameters) :
    c.exec host ⟨name, i⟩ ps = host.run x c ps := by
  rw [Context.exec, found]
  rfl

theorem execBuiltin (host : Host m X) {c : Context X} {name : String} {b : Builtin}
    (found : c.functions.get? name = some (.builtin b)) (i : Option Nat) (ps : Parameters) :
    c.exec host ⟨name, i⟩ ps = (b.run host c ps).run := by
  rw [Context.exec, found]
  rfl

theorem execSymbol (host : Host m X) {c : Context X} {name : String}
    (absent : c.functions.get? name = none) (i : Option Nat) :
    c.exec host ⟨name, i⟩ [] = do
      let v ← c.lookup host name
      return .ok (i.elim v v.component) := by
  rw [Context.exec, absent]
  cases i with
  | none => rfl
  | some i => rfl

theorem execUnknown (host : Host m X) {c : Context X} {name : String}
    (absent : c.functions.get? name = none) (i : Option Nat) {ps : Parameters} (some : ps ≠ []) :
    c.exec host ⟨name, i⟩ ps = pure (.ok .unknown) := by
  rw [Context.exec, absent]
  exact if_neg (by simpa using some)

structure Dispatches (host : Host m X) (start : Start) (ops : List (Operation X)) : Prop where
  refused : ∀ name f, (step (reached start ops) (.register name f)).1 = .refused ⟨name⟩ ↔
    (reached start ops).contains name
  kept : ∀ name f e, (step (reached start ops) (.register name f)).1 = .refused e →
    (step (reached start ops) (.register name f)).2 = reached start ops ∧
      ∃ g, Standing (history start ops) name g ∧
        (step (reached start ops) (.register name f)).2.get? name = some g
  registered : ∀ name f, (reached start ops).contains name = false →
    (step (reached start ops) (.register name f)).1 = .registered ∧
      (step (reached start ops) (.register name f)).2.get? name = some f
  unregistered : ∀ name, ∃ before, (step (reached start ops) (.unregister name)).1 =
      .unregistered before ∧ (before.isSome ↔ (reached start ops).contains name) ∧
      (∀ f, before = some f ↔ Standing (history start ops) name f) ∧
      (step (reached start ops) (.unregister name)).2.contains name = false
  created : ∀ name f, (reached start ops).get? name = some f ↔ Standing (history start ops) name f
  independent : ∀ other name, concerning name other = concerning name ops →
    (reached start other).get? name = (reached start ops).get? name
  names : ∀ l, (reached start ops).sortedNames = l ↔
    l.Pairwise BytesBefore ∧ ∀ name, name ∈ l ↔ (reached start ops).contains name
  calls : ∀ name, (reached start ops).contains name →
    ∃ f, Standing (history start ops) name f ∧
      ∀ c : Context X, c.functions = reached start ops → ∀ i ps,
        c.exec host ⟨name, i⟩ ps = match f with
          | .extension x => host.run x c ps
          | .builtin b => (b.run host c ps).run
  symbols : ∀ name, (reached start ops).contains name = false →
    ∀ c : Context X, c.functions = reached start ops → ∀ i,
      (c.exec host ⟨name, i⟩ [] = do
        let v ← c.lookup host name
        return .ok (i.elim v v.component)) ∧
      ∀ ps, ps ≠ [] → c.exec host ⟨name, i⟩ ps = pure (.ok .unknown)

theorem registriesDispatch (host : Host m X) :
    (∀ b : Builtin, (builtins : Registry X).get? b.name = some (.builtin b)) ∧
    log (.empty : Registry X) opening =
      (Builtin.all.map fun b => accepted b.name (.builtin b)) ∧
    ∀ start ops, Dispatches host start ops := by
  refine ⟨builtinsGet, openingAccepted.2, fun start ops => ?_⟩
  have recorded := reachedRecorded (X := X) start ops
  constructor
  case refused =>
    intro name f
    cases there : (reached start ops).contains name with
    | true => simp [stepPresent there]
    | false => simp [stepAbsent there]
  case kept =>
    intro name f e refused
    cases there : (reached start ops).contains name with
    | true =>
      obtain ⟨g, found⟩ := Option.isSome_iff_exists.mp there
      rw [stepPresent there]
      exact ⟨rfl, g, (recorded name g).mp found, found⟩
    | false =>
      rw [stepAbsent there] at refused
      contradiction
  case registered =>
    intro name f absent
    rw [stepAbsent absent, Keyed.getInsert, if_pos rfl]
    exact ⟨rfl, rfl⟩
  case unregistered =>
    intro name
    rw [stepUnregister]
    refine ⟨(reached start ops).get? name, rfl, Iff.rfl, recorded name, ?_⟩
    rw [Keyed.contains, Keyed.getErase, if_pos rfl]
    rfl
  case created => exact recorded
  case independent =>
    intro other name same
    rw [reached, reached, ← stepsConcerning, same, stepsConcerning]
  case names => exact (reached start ops).sortedIff
  case calls =>
    intro name there
    obtain ⟨f, found⟩ := Option.isSome_iff_exists.mp there
    refine ⟨f, (recorded name f).mp found, ?_⟩
    intro c functions i ps
    rw [← functions] at found
    cases f with
    | extension x => exact execExtension host found i ps
    | builtin b => exact execBuiltin host found i ps
  case symbols =>
    intro name absent c functions i
    rw [← functions] at absent
    exact ⟨execSymbol host (noneOfAbsent absent) i,
      fun ps some => execUnknown host (noneOfAbsent absent) i some⟩

end

def echoHost : Host (StateM Unit) String where
  osVariable? _ := pure none
  pathExists _ := pure false
  system := "linux"
  architecture := "x86_64"
  run x _ ps := pure (.ok (.string (x ++ (ps.value? "value").getD "")))

def shadowed (r : Registry String) : Context String :=
  ⟨r, .empty, .empty, .ofList [("to_upper", ⟨.string, ["p", "q"]⟩)]⟩

theorem registriesDispatchShadowed :
    let replaced : List (Operation String) :=
      [.unregister "to_upper", .register "to_upper" (.extension "x"), .register "to_upper" (.builtin .env)]
    let removed := replaced ++ [.unregister "to_upper"]
    let call (ops : List (Operation String)) (ps : Parameters) :=
      perform ((shadowed (reached .builtins ops)).exec echoHost ⟨"to_upper", some 1⟩ ps) ()
    (step (reached .builtins replaced) (.register "to_upper" (.builtin .env))).1 =
        .refused ⟨"to_upper"⟩ ∧
      call [] [⟨"value", some "v"⟩] = (.ok (.string "V"), ()) ∧
      call replaced [⟨"value", some "v"⟩] = (.ok (.string "xv"), ()) ∧
      call removed [] = (.ok (.string "q"), ()) ∧
      call removed [⟨"value", some "v"⟩] = (.ok .unknown, ()) := by
  intro replaced removed call
  have dispatches := (registriesDispatch echoHost).2.2 .builtins
  have own : (reached .builtins []).get? "to_upper" = some (.builtin .toUpper : Function String) := by
    decide +kernel
  have other : (reached .builtins replaced).get? "to_upper" = some (.extension "x") := by
    decide +kernel
  have absent : (reached .builtins removed).contains "to_upper" = false := by decide +kernel
  refine ⟨?_, ?_, ?_, ?_, ?_⟩
  · exact ((dispatches replaced).refused "to_upper" (.builtin .env)).mpr (Option.isSome_of_eq_some other)
  · obtain ⟨f, standing, called⟩ := (dispatches []).calls "to_upper" (Option.isSome_of_eq_some own)
    have found := ((dispatches []).created "to_upper" f).mpr standing
    obtain rfl := Option.some.inj (own.symm.trans found)
    change perform (Context.exec _ _ _ _) () = _
    rw [called _ rfl]
    decide +kernel
  · obtain ⟨f, standing, called⟩ :=
      (dispatches replaced).calls "to_upper" (Option.isSome_of_eq_some other)
    have found := ((dispatches replaced).created "to_upper" f).mpr standing
    obtain rfl := Option.some.inj (other.symm.trans found)
    change perform (Context.exec _ _ _ _) () = _
    rw [called _ rfl]
    decide +kernel
  · change perform (Context.exec _ _ _ _) () = _
    rw [((dispatches removed).symbols "to_upper" absent _ rfl (some 1)).1]
    decide +kernel
  · change perform (Context.exec _ _ _ _) () = _
    rw [((dispatches removed).symbols "to_upper" absent _ rfl (some 1)).2 _ (by decide)]
    rfl

end Registry
end Descriptor
