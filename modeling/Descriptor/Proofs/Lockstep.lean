import Descriptor.Proofs.Productions
import Descriptor.Proofs.World
/-!
Actions as steps from state to state, also where they fail: a failure leaves a state from which
others can go on. Two sources that give the same step by step let the productions give the same.
-/
namespace Descriptor.Condition

section
variable {μ ν : Type → Type} [Monad μ] [MonadExcept Failure μ] [Monad ν] [MonadExcept Failure ν]
  {σ τ W : Type}

/- Actions that come down to a step from state to state, and go on as steps do. -/
structure Runs (μ : Type → Type) [Monad μ] [MonadExcept Failure μ] (σ : Type) where
  run : {α : Type} → μ α → σ → Except Failure α × σ
  done : ∀ {α : Type} (a : α) (s : σ), run (pure a) s = (.ok a, s)
  failed : ∀ {α : Type} (e : Failure) (s : σ), run (throw e : μ α) s = (.error e, s)
  chain : ∀ {α β : Type} (x : μ α) (f : α → μ β) (s : σ), run (x >>= f) s =
    match run x s with
    | (.ok a, s') => run (f a) s'
    | (.error e, s') => (.error e, s')

def indexRuns : Runs (ExceptT Failure (StateM σ)) σ where
  run x s := perform x.run s
  done _ _ := rfl
  failed _ _ := rfl
  chain x f s := by
    change perform (x.run >>= ExceptT.bindCont f) s = _
    rw [performBind]
    rcases perform x.run s with ⟨_ | a, s'⟩ <;> rfl

def stateRuns : Runs (ExceptT Failure (StateT σ (StateM W))) (σ × W) where
  run x s :=
    let ((a, k), w) := perform (x.run.run s.1) s.2
    (a, (k, w))
  done _ _ := rfl
  failed _ _ := rfl
  chain x f s := by
    change (let ((a, k), w) := perform ((x.run >>= ExceptT.bindCont f).run s.1) s.2; (a, (k, w))) = _
    rw [StateT.run_bind, performBind]
    rcases perform (x.run.run s.1) s.2 with ⟨⟨_ | a, k⟩, w⟩ <;> rfl

def lockstep (R : Runs μ σ) (S : Runs ν τ) (always : σ × τ → Prop) : Comparison μ ν (σ × τ) where
  Always := always
  Agree P x y Q := ∀ s t, P (s, t) → (R.run x s).1 = (S.run y t).1 ∧
    match (R.run x s).1 with
    | .ok a => Q a ((R.run x s).2, (S.run y t).2)
    | .error _ => always ((R.run x s).2, (S.run y t).2)
  done a holds s t before := by
    rw [R.done, S.done]
    exact ⟨rfl, holds _ before⟩
  failed _ holds s t before := by
    unfold fail
    rw [R.failed, S.failed]
    exact ⟨rfl, holds _ before⟩
  chain {α β P Q R' x y f g} one more s t before := by
    obtain ⟨same, behind⟩ := one s t before
    rw [R.chain, S.chain]
    generalize R.run x s = o at same behind
    generalize S.run y t = o' at same behind
    obtain ⟨a, s'⟩ := o
    obtain ⟨b, t'⟩ := o'
    obtain rfl : a = b := same
    cases a with
    | error e => exact ⟨rfl, behind⟩
    | ok a => exact more a s' t' behind
  relax agree before behind s t holds := by
    obtain ⟨same, holds⟩ := agree s t (before _ holds)
    refine ⟨same, ?_⟩
    split
    · rename_i a result
      rw [result] at holds
      exact behind _ _ holds
    · rename_i e result
      rw [result] at holds
      exact holds

theorem lockstepAlike {R : Runs μ σ} {S : Runs ν τ} {P : σ × τ → Prop} {α : Type} {x : μ α} {y : ν α}
    (agree : (lockstep R S P).Agree P x y fun _ => P) (s : σ) (t : τ) (before : P (s, t)) :
    (R.run x s).1 = (S.run y t).1 ∧ P ((R.run x s).2, (S.run y t).2) := by
  obtain ⟨same, behind⟩ := agree s t before
  refine ⟨same, ?_⟩
  split at behind
  · exact behind
  · exact behind

end

def repeated {σ α : Type} (step : σ → α × σ) : Nat → σ → List α × σ
  | 0, s => ([], s)
  | n + 1, s =>
    let more := repeated step n (step s).2
    ((step s).1 :: more.1, more.2)

theorem repeatedSucc {σ α : Type} (step : σ → α × σ) (n : Nat) (s : σ) :
    repeated step (n + 1) s =
      ((repeated step n s).1 ++ [(step (repeated step n s).2).1], (step (repeated step n s).2).2) := by
  induction n generalizing s with
  | zero => rfl
  | succ n ih =>
    rw [repeated, ih, repeated]
    simp

theorem repeatedLength {σ α : Type} (step : σ → α × σ) (n : Nat) (s : σ) :
    (repeated step n s).1.length = n := by
  induction n generalizing s with
  | zero => rfl
  | succ n ih => simp [repeated, ih]

theorem repeatedKeeps {σ α : Type} {step : σ → α × σ} {P : σ → Prop} {Q : α → Prop}
    (one : ∀ s, P s → Q (step s).1 ∧ P (step s).2) (n : Nat) {s : σ} (start : P s) :
    (∀ a ∈ (repeated step n s).1, Q a) ∧ P (repeated step n s).2 := by
  induction n generalizing s with
  | zero => exact ⟨nofun, start⟩
  | succ n ih =>
    obtain ⟨first, behind⟩ := one s start
    obtain ⟨more, last⟩ := ih behind
    exact ⟨List.forall_mem_cons.mpr ⟨first, more⟩, last⟩

theorem repeatedAlike {σ τ α : Type} {step : σ → α × σ} {step' : τ → α × τ} {R : σ → τ → Prop}
    (one : ∀ s t, R s t → (step s).1 = (step' t).1 ∧ R (step s).2 (step' t).2)
    (n : Nat) {s : σ} {t : τ} (alike : R s t) :
    (repeated step n s).1 = (repeated step' n t).1 ∧
      R (repeated step n s).2 (repeated step' n t).2 := by
  induction n generalizing s t with
  | zero => exact ⟨rfl, alike⟩
  | succ n ih =>
    obtain ⟨first, behind⟩ := one s t alike
    obtain ⟨more, last⟩ := ih behind
    exact ⟨by simp only [repeated, first, more], last⟩

end Descriptor.Condition
