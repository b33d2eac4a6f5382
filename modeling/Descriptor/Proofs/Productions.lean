import Descriptor.Condition
/-!
Conditions read from two sources. What holds of two sources token by token holds of every
production over them: nothing else in a production can tell the sources apart.

The productions put a token back only behind the reading of the same token, and go a level further
in only behind a token that is not the end. What is known between two steps may depend on both.
-/
namespace Descriptor.Condition

variable {μ ν : Type → Type} [Monad μ] [MonadExcept Failure μ] [Monad ν] [MonadExcept Failure ν]
  {σ : Type}

inductive Raised : ExpressionError → Prop where
  | expectingValue : Raised .expectingValue
  | unbalancedParenthesis : Raised .unbalancedParenthesis

/- A way to hold actions of two monads against each other. `Agree P x y Q` is about the two from
states where `P` holds. With a result `a` they lead to states where `Q a` holds, and with a failure
to states where `Always` holds. -/
structure Comparison (μ ν : Type → Type) [Monad μ] [MonadExcept Failure μ] [Monad ν]
    [MonadExcept Failure ν] (σ : Type) where
  Always : σ → Prop
  Agree : {α : Type} → (σ → Prop) → μ α → ν α → (α → σ → Prop) → Prop
  done : ∀ {α : Type} {P : σ → Prop} {Q : α → σ → Prop} (a : α), (∀ s, P s → Q a s) →
    Agree P (pure a) (pure a) Q
  failed : ∀ {α : Type} {P : σ → Prop} {Q : α → σ → Prop} {e : ExpressionError}, Raised e →
    (∀ s, P s → Always s) → Agree P (fail e) (fail e) Q
  chain : ∀ {α β : Type} {P : σ → Prop} {Q : α → σ → Prop} {R : β → σ → Prop} {x : μ α} {y : ν α}
    {f : α → μ β} {g : α → ν β}, Agree P x y Q → (∀ a, Agree (Q a) (f a) (g a) R) →
    Agree P (x >>= f) (y >>= g) R
  relax : ∀ {α : Type} {P P' : σ → Prop} {Q Q' : α → σ → Prop} {x : μ α} {y : ν α},
    Agree P x y Q → (∀ s, P' s → P s) → (∀ a s, Q a s → Q' a s) → Agree P' x y Q'

structure SourcesAgree (C : Comparison μ ν σ) (source : Source μ) (source' : Source ν)
    (P : Nat → σ → Prop) (Q : Nat → Token → σ → Prop) : Prop where
  next : ∀ j, C.Agree (P j) source.next source'.next (Q j)
  back : ∀ j t, C.Agree (Q j t) (source.pushBack t) (source'.pushBack t) fun _ => P j
  kept : ∀ {j t s}, Q j t s → P j s
  within : ∀ {j t s}, t ≠ .finish → Q (j + 1) t s → P j s
  widen : ∀ {j s}, P j s → P (j + 1) s
  always : ∀ {j s}, P j s → C.Always s

structure LevelsAgree (C : Comparison μ ν σ) (P : σ → Prop) (l : Level μ) (l' : Level ν) : Prop where
  condition : C.Agree P l.condition l'.condition fun _ => P
  primary : C.Agree P l.primary l'.primary fun _ => P

section
variable {C : Comparison μ ν σ} {source : Source μ} {source' : Source ν} {P : Nat → σ → Prop}
  {Q : Nat → Token → σ → Prop} {inner : Level μ} {inner' : Level ν} {j : Nat}

theorem failThenAgrees {α : Type} {P : σ → Prop} {Q : α → σ → Prop} {e : ExpressionError}
    (raised : Raised e) (a : α) (always : ∀ s, P s → C.Always s) :
    C.Agree P (fail e >>= fun _ : Unit => pure a) (fail e >>= fun _ : Unit => pure a) Q := by
  apply C.chain (C.failed (Q := fun _ _ => False) raised always)
  intro _
  exact C.done a fun _ none => none.elim

theorem expectValueAgrees {P : σ → Prop} (t : Token) (always : ∀ s, P s → C.Always s) :
    C.Agree P (expectValue t) (expectValue t) fun _ => P := by
  cases t with
  | value v => exact C.done v fun _ holds => holds
  | _ => exact C.failed .expectingValue always

theorem primaryAgrees (agree : SourcesAgree C source source' P Q)
    (levels : LevelsAgree C (P j) inner inner') :
    C.Agree (P (j + 1)) (primary source inner) (primary source' inner')
      fun t s => P (j + 1) s ∧ (t = .leftParen → P j s) := by
  unfold primary
  apply C.chain (agree.next (j + 1))
  intro first
  split
  · apply C.done
    intro s read
    refine ⟨agree.kept read, ?_⟩
    intro same
    subst same
    exact agree.within (by decide) read
  · rename_i negated
    have started : ∀ s, Q (j + 1) first s → P j s := fun s read => by
      simp only [ne_eq, Decidable.not_not] at negated
      subst negated
      exact agree.within (by decide) read
    apply C.chain (C.relax (agree.next j) started fun _ _ read => read)
    intro operand
    split
    · apply C.chain (C.relax levels.condition (fun _ => agree.kept) fun _ _ holds => holds)
      intro result
      apply C.chain (agree.next j)
      intro close
      split
      · exact failThenAgrees .unbalancedParenthesis _ fun _ holds => agree.always (agree.kept holds)
      · apply C.done
        intro s read
        exact ⟨agree.widen (agree.kept read), nofun⟩
    · apply C.chain (agree.back j operand)
      intro _
      apply C.chain levels.primary
      intro t
      apply C.chain (expectValueAgrees t fun _ => agree.always)
      intro v
      apply C.done
      intro s holds
      exact ⟨agree.widen holds, nofun⟩

theorem relationalAgrees (agree : SourcesAgree C source source' P Q)
    (levels : LevelsAgree C (P j) inner inner') :
    C.Agree (P (j + 1)) (relational source inner) (relational source' inner') fun _ => P (j + 1) := by
  have operand := primaryAgrees agree levels
  have plain := C.relax operand (fun _ holds => holds) fun _ _ read => read.1
  unfold relational
  apply C.chain operand
  intro left
  split
  · rename_i opened
    apply C.chain (C.relax levels.condition (fun _ read => read.2 opened)
      fun _ _ holds => agree.widen holds)
    intro result
    apply C.chain plain
    intro close
    split
    · exact failThenAgrees .unbalancedParenthesis _ fun _ holds => agree.always holds
    · exact C.done result fun _ holds => holds
  · apply C.chain (C.relax (agree.next (j + 1)) (fun _ read => read.1) fun _ _ read => read)
    intro t
    have alone : C.Agree (Q (j + 1) t)
        (do source.pushBack t; return (← expectValue left).isTrue)
        (do source'.pushBack t; return (← expectValue left).isTrue) fun _ => P (j + 1) := by
      apply C.chain (agree.back (j + 1) t)
      intro _
      apply C.chain (expectValueAgrees left fun _ => agree.always)
      intro v
      exact C.done v.isTrue fun _ holds => holds
    cases t with
    | relation r =>
      apply C.chain (C.relax (expectValueAgrees left fun _ => agree.always) (fun _ => agree.kept)
        fun _ _ holds => holds)
      intro v
      apply C.chain plain
      intro right
      apply C.chain (expectValueAgrees right fun _ => agree.always)
      intro w
      exact C.done (v.relate r w) fun _ holds => holds
    | _ => exact alone

theorem conjunctionAgrees (agree : SourcesAgree C source source' P Q)
    (levels : LevelsAgree C (P j) inner inner') :
    C.Agree (P (j + 1)) (conjunction source inner) (conjunction source' inner') fun _ => P (j + 1) := by
  have operand := relationalAgrees agree levels
  unfold conjunction
  apply C.chain operand
  intro holds
  split
  · apply C.chain (agree.next (j + 1))
    intro t
    split
    · exact C.relax operand (fun _ => agree.kept) fun _ _ holds => holds
    · apply C.chain (agree.back (j + 1) t)
      intro _
      exact C.done true fun _ holds => holds
  · exact C.done false fun _ holds => holds

theorem disjunctionAgrees (agree : SourcesAgree C source source' P Q)
    (levels : LevelsAgree C (P j) inner inner') :
    C.Agree (P (j + 1)) (disjunction source inner) (disjunction source' inner') fun _ => P (j + 1) := by
  have operand := conjunctionAgrees agree levels
  unfold disjunction
  apply C.chain operand
  intro holds
  split
  · exact C.done true fun _ holds => holds
  · apply C.chain (agree.next (j + 1))
    intro t
    split
    · exact C.relax operand (fun _ => agree.kept) fun _ _ holds => holds
    · apply C.chain (agree.back (j + 1) t)
      intro _
      exact C.done false fun _ holds => holds

theorem levelsAgree (agree : SourcesAgree C source source' P Q) {a b : Nat}
    (innermost : LevelsAgree C (P 0) (level source a) (level source' b)) (j : Nat) :
    LevelsAgree C (P j) (level source (a + j)) (level source' (b + j)) := by
  induction j with
  | zero => exact innermost
  | succ j ih =>
    exact ⟨disjunctionAgrees agree ih, C.relax (primaryAgrees agree ih) (fun _ holds => holds)
      fun _ _ read => read.1⟩

theorem equalLevelsAgree (agree : SourcesAgree C source source' P Q) (j : Nat) :
    LevelsAgree C (P j) (level source j) (level source' j) := by
  have innermost : LevelsAgree C (P 0) (level source 0) (level source' 0) :=
    ⟨C.failed .expectingValue fun _ => agree.always, C.failed .expectingValue fun _ => agree.always⟩
  have raised := levelsAgree agree innermost j
  rwa [Nat.zero_add] at raised

end
end Descriptor.Condition
