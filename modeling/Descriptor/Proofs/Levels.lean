import Descriptor.Proofs.Lockstep
import Descriptor.Proofs.Lookahead
/-!
A text never needs more levels than its evaluation has. A level further in costs a token that is
not the end, and every such token takes a character or was put back, so that any greater number of
levels gives the same.
-/
namespace Descriptor
open Condition

variable {W : Type} (exec : Exec (StateM W))

namespace Tokenizer

theorem runGet (k : Tokenizer) (w : W) :
    stateRuns.run (get : Reading (StateM W) Tokenizer) (k, w) = (.ok k, (k, w)) := rfl

theorem runLift {α : Type} (x : StateM W α) (k : Tokenizer) (w : W) :
    stateRuns.run (liftM x : Reading (StateM W) α) (k, w) =
      (.ok (perform x w).1, (k, (perform x w).2)) := rfl

theorem runScan (k : Tokenizer) (w : W) :
    stateRuns.run (scan exec) (k, w) =
      let ((result, n), w') := perform (Token.scan exec k.unread) w
      (result.mapError (·.toFailure k.whole), ({ k with unread := k.unread.drop n }, w')) := by
  unfold scan
  rw [stateRuns.chain, runGet]
  simp only
  rw [stateRuns.chain, runLift]
  rcases perform (Token.scan exec k.unread) w with ⟨⟨_ | t, n⟩, w'⟩
  · rfl
  · rfl

theorem runNext (k : Tokenizer) (w : W) :
    stateRuns.run (next exec) (k, w) =
      match k.pushed with
      | t :: rest => (.ok t, ({ k with pushed := rest }, w))
      | [] => stateRuns.run (scan exec) (k, w) := by
  unfold next
  rw [stateRuns.chain, runGet]
  simp only
  cases k.pushed with
  | nil => rfl
  | cons t rest => rfl

def weight (t : Token) : Nat := if t = .finish then 0 else 1

theorem sizePushBack (t : Token) (k : Tokenizer) : (k.pushBack t).size = k.size + weight t := by
  by_cases last : t = .finish
  · simp [size, pushBack, weight, last]
  · simp [size, pushBack, weight, last, Nat.add_assoc]

def allowance : Except Failure Token → Nat
  | .ok t => weight t
  | .error _ => 0

theorem scanSize {k k' : Tokenizer} {w w' : W} {result : Except Failure Token}
    (ran : stateRuns.run (scan exec) (k, w) = (result, (k', w'))) :
    k'.size + allowance result ≤ k.size := by
  rw [runScan] at ran
  generalize read : perform (Token.scan exec k.unread) w = o at ran
  obtain ⟨⟨_ | t, n⟩, w₁⟩ := o
  · cases ran
    change size { k with unread := k.unread.drop n } + 0 ≤ k.size
    simp [size]
  · cases ran
    change size { k with unread := k.unread.drop n } + weight t ≤ k.size
    by_cases last : t = .finish
    · simp [size, weight, last]
    · have fewer := Token.scanTakes last read
      simp only [size, weight, if_neg last]
      omega

theorem nextSize {k k' : Tokenizer} {w w' : W} {result : Except Failure Token}
    (ran : stateRuns.run (next exec) (k, w) = (result, (k', w'))) :
    k'.size + allowance result ≤ k.size := by
  rw [runNext] at ran
  split at ran
  · rename_i t rest top
    cases ran
    have same : k = pushBack t { k with pushed := rest } := by simp [pushBack, ← top]
    rw [same, sizePushBack]
    exact Nat.le_refl _
  · exact scanSize exec ran

def Fits (bound j : Nat) : (Tokenizer × W) × (Tokenizer × W) → Prop
  | (s, t) => s = t ∧ s.1.size < j ∧ s.1.size < bound

def FitsBehind (bound j : Nat) (t : Token) : (Tokenizer × W) × (Tokenizer × W) → Prop
  | (s, s') => s = s' ∧ s.1.size + weight t < j ∧ s.1.size + weight t < bound

def Within (bound : Nat) : (Tokenizer × W) × (Tokenizer × W) → Prop
  | (s, t) => s = t ∧ s.1.size < bound

theorem fitsAgree (bound : Nat) : SourcesAgree (lockstep stateRuns stateRuns (Within bound))
    (source exec) (source exec) (Fits bound) (FitsBehind bound) where
  next j := by
    intro (k, w) s fits
    obtain ⟨rfl, level, whole⟩ := fits
    refine ⟨rfl, ?_⟩
    generalize ran : stateRuns.run (source exec).next (k, w) = o
    obtain ⟨result, k', w'⟩ := o
    have fewer := nextSize exec ran
    dsimp only at level whole
    cases result with
    | error e =>
      simp only [allowance] at fewer
      exact ⟨rfl, by dsimp only; omega⟩
    | ok t =>
      simp only [allowance] at fewer
      exact ⟨rfl, by dsimp only; omega, by dsimp only; omega⟩
  back j t := by
    intro (k, w) s fits
    obtain ⟨rfl, level, whole⟩ := fits
    have size : (k.pushBack t).size = k.size + weight t := sizePushBack t k
    exact ⟨rfl, rfl, size ▸ level, size ▸ whole⟩
  kept {j t s} fits := by
    obtain ⟨same, level, whole⟩ := fits
    exact ⟨same, by omega, by omega⟩
  within {j t s} real fits := by
    obtain ⟨same, level, whole⟩ := fits
    simp only [weight, if_neg real] at level whole
    exact ⟨same, by omega, by omega⟩
  widen {j s} fits := by
    obtain ⟨same, level, whole⟩ := fits
    exact ⟨same, by omega, whole⟩
  always {j s} fits := by
    obtain ⟨same, level, whole⟩ := fits
    exact ⟨same, whole⟩

theorem evaluateLevels {bound : Nat} {k : Tokenizer} (fits : k.size < bound) (w : W) :
    stateRuns.run (evaluate exec) (k, w) =
        stateRuns.run (level (source exec) bound).condition (k, w) ∧
      (stateRuns.run (evaluate exec) (k, w)).2.1.size < bound := by
  have innermost : LevelsAgree (lockstep stateRuns stateRuns (Within bound)) (Fits bound 0)
      (level (source exec) 0) (level (source exec) (bound - (k.size + 1))) :=
    ⟨fun s t none => absurd none.2.1 (by omega), fun s t none => absurd none.2.1 (by omega)⟩
  have agree := (levelsAgree (fitsAgree exec bound) innermost (k.size + 1)).condition
  obtain ⟨same, behind⟩ := agree (k, w) (k, w) ⟨rfl, by dsimp only; omega, fits⟩
  rw [Nat.zero_add, Nat.sub_add_cancel fits] at same behind
  have unfolded : stateRuns.run (evaluate exec) (k, w) =
      stateRuns.run (level (source exec) (k.size + 1)).condition (k, w) := by
    unfold evaluate
    rw [stateRuns.chain, runGet]
  rw [unfolded]
  have states : Within bound ((stateRuns.run (level (source exec) (k.size + 1)).condition (k, w)).2,
      (stateRuns.run (level (source exec) bound).condition (k, w)).2) := by
    split at behind
    · exact ⟨behind.1, behind.2.2⟩
    · exact behind
  exact ⟨Prod.ext same states.1, states.2⟩

def evaluations (text : List Char) (w : W) (n : Nat) : List (Except Failure Bool) × (Tokenizer × W) :=
  repeated (stateRuns.run (evaluate exec)) n (.ofText text, w)

theorem evaluationsLevels (text : List Char) {b : Nat} (enough : text.length < b) (w : W) (n : Nat) :
    evaluations exec text w n =
      repeated (stateRuns.run (level (source exec) b).condition) n (.ofText text, w) := by
  have one (s t : Tokenizer × W) (alike : s = t ∧ s.1.size < b) :
      (stateRuns.run (evaluate exec) s).1 = (stateRuns.run (level (source exec) b).condition t).1 ∧
        (stateRuns.run (evaluate exec) s).2 = (stateRuns.run (level (source exec) b).condition t).2 ∧
        (stateRuns.run (evaluate exec) s).2.1.size < b := by
    obtain ⟨rfl, fits⟩ := alike
    obtain ⟨same, behind⟩ := evaluateLevels exec fits s.2
    exact ⟨congrArg Prod.fst same, congrArg Prod.snd same, behind⟩
  have start : (ofText text).size < b := by simpa [ofText, size] using enough
  obtain ⟨answers, states, -⟩ := repeatedAlike one n (s := (ofText text, w)) ⟨rfl, start⟩
  exact Prod.ext answers states

end Tokenizer
end Descriptor
