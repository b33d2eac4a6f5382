import Descriptor.Proofs.Unread
import Descriptor.Template
/-!
Scanners know calls by their answers only. What relates the calls of two surroundings relates all
that is scanned in them; so the calls of a text can be written down while it is scanned, and nothing
else changes.
-/
namespace Descriptor

/- A way to hold actions of two monads against each other that goes through every program. -/
structure Simulation (m n : Type → Type) [Monad m] [Monad n] where
  Holds : {α : Type} → m α → n α → Prop
  done : ∀ {α : Type} (a : α), Holds (pure a) (pure a)
  chain : ∀ {α β : Type} {x : m α} {y : n α} {f : α → m β} {g : α → n β}, Holds x y →
    (∀ a, Holds (f a) (g a)) → Holds (x >>= f) (y >>= g)

def Simulation.Calls {m n : Type → Type} [Monad m] [Monad n] (S : Simulation m n) (exec : Exec m)
    (exec' : Exec n) : Prop :=
  ∀ id ps, S.Holds (exec id ps) (exec' id ps)

namespace Scan

theorem callUnopened {m : Type → Type} [Monad m] (exec : Exec m) {rest : List Char}
    (unopened : rest.head? ≠ some '(') :
    call exec rest = pure (.fault .missingOpenParenthesis rest 0) := by
  rw [call.eq_def]
  split
  · exact absurd rfl unopened
  · rfl

section
variable {m n : Type → Type} [Monad m] [Monad n] {S : Simulation m n} {exec : Exec m}
  {exec' : Exec n}

mutual
theorem textSimulates (calls : S.Calls exec exec') (ends : Char → Bool) (s : List Char) :
    S.Holds (text exec ends s) (text exec' ends s) := by
  match s with
  | [] =>
    rw [text, text]
    exact S.done _
  | c :: rest =>
    rw [text, text]
    split
    · exact S.done _
    · apply S.chain (unitSimulates calls c rest)
      intro (first, n)
      cases first with
      | error stop => exact S.done _
      | ok first =>
        apply S.chain (textSimulates calls ends (rest.drop n))
        intro (more, k)
        exact S.done _
termination_by 3 * s.length

theorem unitSimulates (calls : S.Calls exec exec') (c : Char) (rest : List Char) :
    S.Holds (unit exec c rest) (unit exec' c rest) := by
  rw [unit, unit]
  split
  · exact S.done _
  · split
    · exact quotedSimulates calls rest
    · split
      · apply S.chain (callSimulates calls rest)
        intro (value, n)
        exact S.done _
      · exact S.done _
termination_by 3 * rest.length + 2

theorem quotedSimulates (calls : S.Calls exec exec') (rest : List Char) :
    S.Holds (quoted exec rest) (quoted exec' rest) := by
  rw [quoted, quoted]
  apply S.chain (textSimulates calls endsQuoted rest)
  intro (inside, n)
  cases inside with
  | error stop => exact S.done _
  | ok inside =>
    dsimp only
    split
    · exact S.done _
    · exact S.done _
termination_by 3 * rest.length + 1

theorem callSimulates (calls : S.Calls exec exec') (rest : List Char) :
    S.Holds (call exec rest) (call exec' rest) := by
  by_cases opens : rest.head? = some '('
  · obtain ⟨body, whole⟩ := List.head?_eq_some_iff.mp opens
    have shorter : body.length < rest.length := by simp [whole]
    rw [whole, call, call]
    apply S.chain (identifierSimulates calls (body.drop (blanks body)))
    intro (id, n)
    cases id with
    | error stop => exact S.done _
    | ok id =>
      apply S.chain (parametersSimulates calls (body.drop (blanks body + n)))
      intro (ps, k)
      cases ps with
      | error stop => exact S.done _
      | ok ps =>
        apply S.chain (calls id ps)
        intro answer
        cases answer with
        | error failure => exact S.done _
        | ok value => exact S.done _
  · rw [callUnopened exec opens, callUnopened exec' opens]
    exact S.done _
termination_by 3 * rest.length

theorem identifierSimulates (calls : S.Calls exec exec') (s : List Char) :
    S.Holds (identifier exec s) (identifier exec' s) := by
  rw [identifier, identifier]
  apply S.chain (textSimulates calls endsName s)
  intro (name, n)
  cases name with
  | error stop => exact S.done _
  | ok name => exact S.done _
termination_by 3 * s.length + 1

theorem parametersSimulates (calls : S.Calls exec exec') (s : List Char) :
    S.Holds (parameters exec s) (parameters exec' s) := by
  match s with
  | [] =>
    rw [parameters, parameters]
    exact S.done _
  | c :: rest =>
    rw [parameters, parameters]
    split
    · apply S.chain (parametersSimulates calls rest)
      intro o
      exact S.done _
    · split
      · exact S.done _
      · split
        · apply S.chain (parameterSimulates calls rest)
          intro (first, n)
          cases first with
          | error stop => exact S.done _
          | ok first =>
            apply S.chain (parametersSimulates calls (rest.drop n))
            intro (more, k)
            exact S.done _
        · exact S.done _
termination_by 3 * s.length

theorem parameterSimulates (calls : S.Calls exec exec') (s : List Char) :
    S.Holds (parameter exec s) (parameter exec' s) := by
  rw [parameter, parameter]
  apply S.chain (textSimulates calls endsOption s)
  intro (option, n)
  cases option with
  | error stop => exact S.done _
  | ok option =>
    dsimp only
    split
    · apply S.chain (textSimulates calls endsValue (s.drop (n + 1)))
      intro (value, k)
      exact S.done _
    · exact S.done _
termination_by 3 * s.length + 1
end

end
end Scan

section
variable {W : Type} {m n : Type → Type} [Monad m] [Monad n]

theorem Template.expandSimulates {S : Simulation m n} {exec : Exec m} {exec' : Exec n}
    (calls : S.Calls exec exec') (s : List Char) :
    S.Holds (expand exec s) (expand exec' s) := by
  unfold expand
  apply S.chain (Scan.textSimulates calls _ s)
  intro (result, n)
  exact S.done _

/- A log beside the world: what is added to it depends on the world only, and everything else is as
it is without a log. -/
def logging (W : Type) : Simulation (StateM (List (Identifier × Parameters) × W)) (StateM W) where
  Holds x y := ∀ w, ∃ more, ∀ log,
    perform x (log, w) = ((perform y w).1, (log ++ more, (perform y w).2))
  done a w := ⟨[], fun log => by rw [List.append_nil]; rfl⟩
  chain {α β x y f g} one more w := by
    obtain ⟨first, read⟩ := one w
    obtain ⟨second, read'⟩ := more (perform y w).1 (perform y w).2
    refine ⟨first ++ second, fun log => ?_⟩
    rw [performBind, performBind, read log, read' (log ++ first), List.append_assoc]

theorem loggedCalls (exec : Exec (StateM W)) : (logging W).Calls (Tokenizer.logged exec) exec :=
  fun id ps _ => ⟨[(id, ps)], fun _ => rfl⟩

theorem logAppends {α : Type} {x : StateM (List (Identifier × Parameters) × W) α} {y : StateM W α}
    (same : (logging W).Holds x y) (log : List (Identifier × Parameters)) (w : W) :
    perform x (log, w) =
      ((perform y w).1, (log ++ (perform x ([], w)).2.1, (perform y w).2)) := by
  obtain ⟨more, read⟩ := same w
  rw [read log, read [], List.nil_append]

end
end Descriptor
