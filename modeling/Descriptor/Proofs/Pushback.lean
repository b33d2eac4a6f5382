import Descriptor.Proofs.Levels
/-!
Putting a token back is no more than going back by one in the sequence of all scans of a text. The
tokenizer is watched while conditions are read from it: at every moment it is known which scans
there have been, and what stands before the text.
-/
namespace Descriptor
open Condition

namespace Condition

def indexed (stream : Nat → Except Failure Token) : Source (ExceptT Failure (StateM Nat)) where
  next := ExceptT.mk fun i => (stream i, i + 1)
  pushBack _ := ExceptT.mk fun i => (.ok (), i - 1)

end Condition

namespace Tokenizer

variable {W : Type} (exec : Exec (StateM W)) (text : List Char) (w : W)

def scans (n : Nat) : List (Except Failure Token) × (Tokenizer × W) :=
  repeated (stateRuns.run (scan exec)) n (.ofText text, w)

def stream (i : Nat) : Except Failure Token :=
  (stateRuns.run (scan exec) (scans exec text w i).2).1

structure Moment where
  tokenizer : Tokenizer
  scanned : List (Except Failure Token)

def watched : Source (ExceptT Failure (StateT (Moment × List Moment) (StateM W))) where
  next := ExceptT.mk fun (now, past) w =>
    let (result, k, w') := stateRuns.run (next exec) (now.tokenizer, w)
    let scanned := if now.tokenizer.pushed = [] then now.scanned ++ [result] else now.scanned
    ((result, ⟨k, scanned⟩, now :: past), w')
  pushBack t := ExceptT.mk fun (now, past) w =>
    ((.ok (), ⟨now.tokenizer.pushBack t, now.scanned⟩, now :: past), w)

def Moment.Orderly (m : Moment) : Prop :=
  m.tokenizer.pushed.length ≤ 1 ∧ ∀ t ∈ m.tokenizer.pushed, m.scanned.getLast? = some (.ok t)

def Moment.Faithful (m : Moment) : Prop :=
  m.scanned = (scans exec text w m.scanned.length).1 ∧
    { m.tokenizer with pushed := [] } = (scans exec text w m.scanned.length).2.1

def Synced : ((Moment × List Moment) × W) × Nat → Prop
  | (((now, past), v), i) =>
    (∀ m ∈ now :: past, m.Orderly ∧ m.Faithful exec text w) ∧
      v = (scans exec text w now.scanned.length).2.2 ∧
      i + now.tokenizer.pushed.length = now.scanned.length

def SyncedBehind (t : Token) : ((Moment × List Moment) × W) × Nat → Prop
  | s => Synced exec text w s ∧ s.1.1.1.tokenizer.pushed = [] ∧
    s.1.1.1.scanned.getLast? = some (.ok t)

theorem scansSucc (n : Nat) :
    scans exec text w (n + 1) = ((scans exec text w n).1 ++ [stream exec text w n],
      (stateRuns.run (scan exec) (scans exec text w n).2).2) :=
  repeatedSucc _ n _

theorem scansLength (n : Nat) : (scans exec text w n).1.length = n := repeatedLength _ n _

theorem scanPushed (k : Tokenizer) (v : W) :
    (stateRuns.run (scan exec) (k, v)).2.1.pushed = k.pushed := by
  rw [runScan]

theorem withoutPushed {k : Tokenizer} (none : k.pushed = []) : { k with pushed := [] } = k := by
  cases k
  cases none
  rfl

theorem runWatchedNext (now : Moment) (past : List Moment) (v : W) :
    stateRuns.run (watched exec).next ((now, past), v) =
      let (result, k, v') := stateRuns.run (next exec) (now.tokenizer, v)
      let scanned := if now.tokenizer.pushed = [] then now.scanned ++ [result] else now.scanned
      (result, (⟨k, scanned⟩, now :: past), v') := rfl

theorem watchedScans {now : Moment} {past : List Moment} {v v' : W} {k : Tokenizer}
    {result : Except Failure Token} (none : now.tokenizer.pushed = [])
    (ran : stateRuns.run (scan exec) (now.tokenizer, v) = (result, (k, v'))) :
    stateRuns.run (watched exec).next ((now, past), v) =
      (result, ((⟨k, now.scanned ++ [result]⟩, now :: past), v')) := by
  have read : stateRuns.run (next exec) (now.tokenizer, v) = (result, (k, v')) := by
    rw [runNext, none]
    exact ran
  rw [runWatchedNext, read]
  simp only [if_pos none]

theorem watchedPops {now : Moment} {past : List Moment} {v : W} {t : Token}
    (one : now.tokenizer.pushed = [t]) :
    stateRuns.run (watched exec).next ((now, past), v) =
      (.ok t, ((⟨{ now.tokenizer with pushed := [] }, now.scanned⟩, now :: past), v)) := by
  have read : stateRuns.run (next exec) (now.tokenizer, v) =
      (.ok t, ({ now.tokenizer with pushed := [] }, v)) := by
    rw [runNext, one]
  have some : now.tokenizer.pushed ≠ [] := by rw [one]; nofun
  rw [runWatchedNext, read]
  simp only [if_neg some]

theorem syncedScans {now : Moment} {past : List Moment} {v : W} {i : Nat}
    (synced : Synced exec text w (((now, past), v), i)) (none : now.tokenizer.pushed = []) :
    (now.tokenizer, v) = (scans exec text w i).2 ∧ now.scanned.length = i := by
  obtain ⟨moments, world, index⟩ := synced
  obtain ⟨-, -, tokenizer⟩ := moments now List.mem_cons_self
  have count : now.scanned.length = i := by simpa [none] using index.symm
  rw [withoutPushed none, count] at tokenizer
  rw [count] at world
  exact ⟨Prod.ext tokenizer world, count⟩

theorem syncedPops {now : Moment} {past : List Moment} {v : W} {i : Nat} {t : Token}
    {rest : List Token} (synced : Synced exec text w (((now, past), v), i))
    (some : now.tokenizer.pushed = t :: rest) :
    now.tokenizer.pushed = [t] ∧ now.scanned.length = i + 1 ∧
      now.scanned.getLast? = .some (.ok t) ∧ stream exec text w i = .ok t := by
  obtain ⟨moments, -, index⟩ := synced
  obtain ⟨⟨one, last⟩, scanned, -⟩ := moments now List.mem_cons_self
  have single : rest = [] := by
    rw [some, List.length_cons] at one
    exact List.length_eq_zero_iff.mp (by omega)
  subst single
  have count : now.scanned.length = i + 1 := by simpa [some] using index.symm
  have latest := last t (by rw [some]; exact List.mem_cons_self)
  refine ⟨some, count, latest, ?_⟩
  rw [scanned, count, scansSucc, List.getLast?_concat] at latest
  exact Option.some.inj latest

theorem syncedNext {now : Moment} {past : List Moment} {v : W} {i : Nat}
    (synced : Synced exec text w (((now, past), v), i)) :
    ∃ now' v', stateRuns.run (watched exec).next ((now, past), v) =
        (stream exec text w i, ((now', now :: past), v')) ∧
      Synced exec text w (((now', now :: past), v'), i + 1) ∧ now'.tokenizer.pushed = [] ∧
      now'.scanned.getLast? = some (stream exec text w i) := by
  obtain ⟨moments, world, -⟩ := id synced
  obtain ⟨-, faithful⟩ := moments now List.mem_cons_self
  cases stack : now.tokenizer.pushed with
  | nil =>
    obtain ⟨same, count⟩ := syncedScans exec text w synced stack
    have succ := scansSucc exec text w i
    have pushed := scanPushed exec now.tokenizer v
    rw [same, stack] at pushed
    generalize ran : stateRuns.run (scan exec) (scans exec text w i).2 = o at succ pushed
    obtain ⟨result, k, v'⟩ := o
    obtain rfl : stream exec text w i = result := by rw [stream, ran]
    have more : now.scanned ++ [stream exec text w i] = (scans exec text w (i + 1)).1 := by
      rw [succ, ← count, ← faithful.1]
    have length : (now.scanned ++ [stream exec text w i]).length = i + 1 := by
      rw [more, scansLength]
    refine ⟨_, _, watchedScans exec stack (same ▸ ran), ⟨?_, ?_, ?_⟩, pushed, List.getLast?_concat⟩
    · intro m mem
      obtain rfl | old := List.mem_cons.mp mem
      · refine ⟨⟨?_, ?_⟩, ?_⟩
        · exact pushed ▸ Nat.zero_le 1
        · exact pushed ▸ fun t mem => absurd mem List.not_mem_nil
        · unfold Moment.Faithful
          dsimp only
          rw [length, withoutPushed pushed]
          exact ⟨more, by rw [succ]⟩
      · exact moments m old
    · dsimp only
      rw [length, succ]
    · dsimp only at pushed ⊢
      rw [length, pushed]
      rfl
  | cons t rest =>
    obtain ⟨single, count, latest, given⟩ := syncedPops exec text w synced stack
    rw [given]
    refine ⟨_, _, watchedPops exec single, ⟨?_, world, count.symm⟩, rfl, latest⟩
    intro m mem
    obtain rfl | old := List.mem_cons.mp mem
    · exact ⟨⟨Nat.zero_le 1, nofun⟩, faithful⟩
    · exact moments m old

theorem syncedBack {now : Moment} {past : List Moment} {v : W} {i : Nat} {t : Token}
    (synced : SyncedBehind exec text w t (((now, past), v), i)) :
    Synced exec text w (((⟨now.tokenizer.pushBack t, now.scanned⟩, now :: past), v), i - 1) := by
  obtain ⟨⟨moments, world, index⟩, none, last⟩ := synced
  dsimp only at none last
  obtain ⟨-, faithful⟩ := moments now List.mem_cons_self
  have some : now.scanned ≠ [] := by
    intro empty
    rw [empty] at last
    cases last
  have length := List.length_pos_iff.mpr some
  refine ⟨?_, world, ?_⟩
  · intro m mem
    obtain rfl | old := List.mem_cons.mp mem
    · refine ⟨⟨?_, ?_⟩, faithful⟩
      · simp [pushBack, none]
      · simpa [pushBack, none] using last
    · exact moments m old
  · dsimp only [pushBack]
    rw [none, List.length_nil] at index
    rw [none, List.length_singleton]
    omega

theorem syncedAgree : SourcesAgree (lockstep stateRuns indexRuns (Synced exec text w))
    (watched exec) (indexed (stream exec text w)) (fun _ => Synced exec text w)
    (fun _ => SyncedBehind exec text w) where
  next _ := by
    intro ⟨⟨now, past⟩, v⟩ i synced
    obtain ⟨now', v', ran, behind, none, last⟩ := syncedNext exec text w synced
    have index : indexRuns.run (indexed (stream exec text w)).next i =
        (stream exec text w i, i + 1) := rfl
    rw [ran, index]
    refine ⟨rfl, ?_⟩
    cases given : stream exec text w i with
    | ok t => exact ⟨behind, none, by rw [← given]; exact last⟩
    | error e => exact behind
  back _ t := by
    intro ⟨⟨now, past⟩, v⟩ i synced
    exact ⟨rfl, syncedBack exec text w synced⟩
  kept read := read.1
  within _ read := read.1
  widen synced := synced
  always synced := synced

def Watches : ((Moment × List Moment) × W) × (Tokenizer × W) → Prop
  | (((now, _), v), s) => (now.tokenizer, v) = s

theorem watchesAgree : SourcesAgree (lockstep stateRuns stateRuns (Watches (W := W)))
    (watched exec) (source exec) (fun _ => Watches) (fun _ _ => Watches) where
  next _ := by
    intro ⟨⟨now, past⟩, v⟩ s watches
    obtain rfl : (now.tokenizer, v) = s := watches
    have plain : stateRuns.run (source exec).next (now.tokenizer, v) =
        stateRuns.run (next exec) (now.tokenizer, v) := rfl
    rw [runWatchedNext, plain]
    rcases stateRuns.run (next exec) (now.tokenizer, v) with ⟨_ | t, k, v'⟩
    · exact ⟨rfl, rfl⟩
    · exact ⟨rfl, rfl⟩
  back _ t := by
    intro ⟨⟨now, past⟩, v⟩ s watches
    obtain rfl : (now.tokenizer, v) = s := watches
    exact ⟨rfl, rfl⟩
  kept read := read
  within _ read := read
  widen same := same
  always same := same

def indexedEvaluations (levels n : Nat) : List (Except Failure Bool) × Nat :=
  repeated (indexRuns.run (level (indexed (stream exec text w)) levels).condition) n 0

def watchedEvaluations (levels n : Nat) :
    List (Except Failure Bool) × ((Moment × List Moment) × W) :=
  repeated (stateRuns.run (level (watched exec) levels).condition) n ((⟨.ofText text, []⟩, []), w)

theorem evaluationsWatched (n extra : Nat) :
    (watchedEvaluations exec text w (text.length + 1 + extra) n).1 = (evaluations exec text w n).1 ∧
      Watches ((watchedEvaluations exec text w (text.length + 1 + extra) n).2,
        (evaluations exec text w n).2) := by
  rw [evaluationsLevels exec text (b := text.length + 1 + extra) (by omega)]
  apply repeatedAlike (R := fun s t => Watches (s, t))
    (lockstepAlike (equalLevelsAgree (watchesAgree exec) (text.length + 1 + extra)).condition) n
  rfl

theorem evaluationsSynced (levels n : Nat) :
    (watchedEvaluations exec text w levels n).1 = (indexedEvaluations exec text w levels n).1 ∧
      Synced exec text w ((watchedEvaluations exec text w levels n).2,
        (indexedEvaluations exec text w levels n).2) := by
  apply repeatedAlike (R := fun s t => Synced exec text w (s, t))
    (lockstepAlike (equalLevelsAgree (syncedAgree exec text w) levels).condition) n
  refine ⟨?_, rfl, rfl⟩
  intro m mem
  obtain rfl := List.mem_singleton.mp mem
  exact ⟨⟨Nat.zero_le 1, nofun⟩, rfl, rfl⟩

theorem nextFollows {s : (Moment × List Moment) × W} {k : Tokenizer × W} {i : Nat}
    (watches : Watches (s, k)) (synced : Synced exec text w (s, i)) :
    (stateRuns.run (next exec) k).1 = stream exec text w i := by
  obtain ⟨⟨now, past⟩, v⟩ := s
  obtain rfl : (now.tokenizer, v) = k := watches
  obtain ⟨now', v', ran, -⟩ := syncedNext exec text w synced
  rw [runWatchedNext] at ran
  have given := congrArg Prod.fst ran
  exact given

theorem pushBackTransparent (n extra : Nat) :
    (evaluations exec text w n).1 =
        (indexedEvaluations exec text w (text.length + 1 + extra) n).1 ∧
      ∃ now past, watchedEvaluations exec text w (text.length + 1 + extra) n =
          ((evaluations exec text w n).1, ((now, past), (evaluations exec text w n).2.2)) ∧
        now.tokenizer = (evaluations exec text w n).2.1 ∧
        (∀ m ∈ now :: past, m.Orderly ∧ m.Faithful exec text w) ∧
        (indexedEvaluations exec text w (text.length + 1 + extra) n).2 + now.tokenizer.pushed.length =
          now.scanned.length ∧
        (evaluations exec text w n).2.2 = (scans exec text w now.scanned.length).2.2 := by
  obtain ⟨seen, unchanged⟩ := evaluationsWatched exec text w n extra
  obtain ⟨answers, moments, world, position⟩ :=
    evaluationsSynced exec text w (text.length + 1 + extra) n
  generalize watchedEvaluations exec text w (text.length + 1 + extra) n = watch at *
  obtain ⟨given, ⟨now, past⟩, v⟩ := watch
  have same : (now.tokenizer, v) = (evaluations exec text w n).2 := unchanged
  rw [← same]
  exact ⟨seen.symm.trans answers, now, past, Prod.ext seen rfl, rfl, moments, position, world⟩

end Tokenizer
end Descriptor
