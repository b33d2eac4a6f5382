import Mathlib.Order.Nat
import Descriptor.Proofs.Pushback
import Descriptor.Proofs.Session
import Descriptor.Proofs.Substitution
/-!
Reading makes progress. Of the tokens that an evaluation takes up it puts back one at most, and one
that it needs for a result is gone for good: what is left of a text becomes less with every answer,
and no more with a failure.
-/
namespace Descriptor
open Condition

variable {W : Type} {exec : Exec (StateM W)}

namespace Tokenizer

section
variable {α β : Type}

def inHand (d : α → Nat) : Except Failure α → Nat
  | .ok a => d a
  | .error _ => 0

/- Tokens in hand and tokens to come do not become more. An action that starts with `c` in hand has
`d a` in hand with the result `a`. -/
def Carries (c : Nat) (x : Reading (StateM W) α) (d : α → Nat) : Prop :=
  ∀ s, (stateRuns.run x s).2.1.size + inHand d (stateRuns.run x s).1 ≤ s.1.size + c

theorem carriesPure {a : α} {c : Nat} {d : α → Nat} (fits : d a ≤ c) :
    Carries (W := W) c (pure a) d :=
  fun s => Nat.add_le_add_left fits s.1.size

theorem carriesFail (e : ExpressionError) (c : Nat) (d : α → Nat) :
    Carries (W := W) c (fail e) d :=
  fun s => Nat.le_add_right s.1.size c

theorem carriesThen {c : Nat} {x : Reading (StateM W) α} {d : α → Nat} {f : α → Reading (StateM W) β}
    {e : β → Nat} (one : Carries c x d) (more : ∀ a, Carries (d a) (f a) e) :
    Carries c (x >>= f) e := by
  intro s
  have first := one s
  rw [stateRuns.chain]
  generalize stateRuns.run x s = o at first ⊢
  obtain ⟨failure | a, s'⟩ := o
  · exact first
  · exact (more a s').trans first

theorem Carries.fewer {c : Nat} {x : Reading (StateM W) α} {d d' : α → Nat} (carries : Carries c x d)
    (less : ∀ a, d' a ≤ d a) : Carries c x d' := by
  intro s
  have before := carries s
  generalize stateRuns.run x s = o at before ⊢
  obtain ⟨failure | a, s'⟩ := o
  · exact before
  · exact (Nat.add_le_add_left (less a) _).trans before

theorem carriesExpect (t : Token) (c : Nat) :
    Carries (W := W) (c + weight t) (expectValue t) fun _ => c + 1 := by
  cases t with
  | value v => exact carriesPure (Nat.le_refl _)
  | _ => exact carriesFail _ _ _

theorem carriesNext (c : Nat) : Carries c (source exec).next fun t => c + weight t := by
  intro s
  generalize ran : stateRuns.run (source exec).next s = o
  obtain ⟨failure | t, k, w⟩ := o
  · have size := nextSize exec ran
    simp only [allowance] at size
    simp only [inHand]
    omega
  · have size := nextSize exec ran
    simp only [allowance] at size
    simp only [inHand]
    omega

theorem carriesBack (t : Token) (c : Nat) :
    Carries (c + weight t) ((source exec).pushBack t) fun _ => c := by
  intro s
  have size := sizePushBack t s.1
  change (s.1.pushBack t).size + c ≤ s.1.size + (c + weight t)
  omega

end

structure LevelCarries (inner : Level (Reading (StateM W))) : Prop where
  condition : ∀ c, Carries c inner.condition fun _ => c + 1
  primary : ∀ c, Carries c inner.primary fun t => c + weight t

section
variable {inner : Level (Reading (StateM W))}

theorem carriesPrimary (levels : LevelCarries inner) (c : Nat) :
    Carries c (primary (source exec) inner) fun t => c + weight t := by
  unfold primary
  apply carriesThen (carriesNext c)
  intro first
  split
  · exact carriesPure (Nat.le_refl _)
  · rename_i negated
    obtain rfl : first = .not := by simpa using negated
    apply carriesThen (carriesNext _)
    intro operand
    split
    · apply carriesThen (levels.condition _)
      intro result
      apply carriesThen (carriesNext _)
      intro close
      split
      · exact carriesThen (carriesFail _ _ fun _ => c + 1) fun _ => carriesPure (Nat.le_refl _)
      · exact carriesPure (by simp [weight]; omega)
    · apply carriesThen (carriesBack operand _)
      intro _
      apply carriesThen (levels.primary _)
      intro t
      apply carriesThen (carriesExpect t _)
      intro v
      exact carriesPure (by simp [weight])

theorem carriesRelational (levels : LevelCarries inner) (c : Nat) :
    Carries c (relational (source exec) inner) fun _ => c + 1 := by
  unfold relational
  apply carriesThen (carriesPrimary levels c)
  intro left
  split
  · apply carriesThen (levels.condition _)
    intro result
    apply carriesThen (carriesPrimary levels _)
    intro close
    split
    · exact carriesThen (carriesFail _ _ fun _ => c + 1) fun _ => carriesPure (Nat.le_refl _)
    · exact carriesPure (by omega)
  · apply carriesThen (carriesNext _)
    intro t
    have alone : Carries (c + weight left + weight t)
        (do (source exec).pushBack t; return (← expectValue left).isTrue) fun _ => c + 1 := by
      apply carriesThen (carriesBack t _)
      intro _
      apply carriesThen (carriesExpect left c)
      intro v
      exact carriesPure (Nat.le_refl _)
    cases t with
    | relation r =>
      rw [Nat.add_right_comm]
      apply carriesThen (carriesExpect left _)
      intro v
      apply carriesThen (carriesPrimary levels _)
      intro right
      apply carriesThen (carriesExpect right _)
      intro w
      exact carriesPure (by omega)
    | _ => exact alone

theorem carriesConjunction (levels : LevelCarries inner) (c : Nat) :
    Carries c (conjunction (source exec) inner) fun _ => c + 1 := by
  unfold conjunction
  apply carriesThen (carriesRelational levels c)
  intro holds
  split
  · apply carriesThen (carriesNext _)
    intro t
    split
    · exact (carriesRelational levels _).fewer fun _ => by omega
    · apply carriesThen (carriesBack t _)
      intro _
      exact carriesPure (Nat.le_refl _)
  · exact carriesPure (Nat.le_refl _)

theorem carriesDisjunction (levels : LevelCarries inner) (c : Nat) :
    Carries c (disjunction (source exec) inner) fun _ => c + 1 := by
  unfold disjunction
  apply carriesThen (carriesConjunction levels c)
  intro holds
  split
  · exact carriesPure (Nat.le_refl _)
  · apply carriesThen (carriesNext _)
    intro t
    split
    · exact (carriesConjunction levels _).fewer fun _ => by omega
    · apply carriesThen (carriesBack t _)
      intro _
      exact carriesPure (Nat.le_refl _)

theorem levelCarries (n : Nat) : LevelCarries (level (source exec) n) := by
  induction n with
  | zero => exact ⟨fun c => carriesFail _ c _, fun c => carriesFail _ c _⟩
  | succ n ih => exact ⟨carriesDisjunction ih, carriesPrimary ih⟩

theorem evaluateCarries : Carries 0 (evaluate exec) fun _ => 1 := by
  intro s
  have unfolded : stateRuns.run (evaluate exec) s =
      stateRuns.run (level (source exec) (s.1.size + 1)).condition s := by
    unfold evaluate
    rw [stateRuns.chain, runGet]
  rw [unfolded]
  exact (levelCarries _).condition 0 s

end

def remaining (k : Tokenizer) : Nat :=
  k.unread.length + if ∃ t ∈ k.pushed, t ≠ .finish then 1 else 0

theorem remainingOf {k : Tokenizer} (short : k.pushed.length ≤ 1) : k.remaining = k.size := by
  obtain ⟨whole, unread, pushed⟩ := k
  cases pushed with
  | nil => simp [remaining, size]
  | cons t rest =>
    rw [List.length_cons] at short
    obtain rfl : rest = [] := List.length_eq_zero_iff.mp (by omega)
    by_cases last : t = .finish
    · simp [remaining, size, last]
    · simp [remaining, size, last]

theorem evaluationsPushed (text : List Char) (w : W) (n : Nat) :
    (evaluations exec text w n).2.1.pushed.length ≤ 1 := by
  obtain ⟨-, watches⟩ := evaluationsWatched exec text w n 0
  obtain ⟨-, moments, -⟩ := evaluationsSynced exec text w (text.length + 1 + 0) n
  generalize watchedEvaluations exec text w (text.length + 1 + 0) n = o at watches moments
  obtain ⟨answers, ⟨now, past⟩, v⟩ := o
  have same : (now.tokenizer, v) = (evaluations exec text w n).2 := watches
  rw [← same]
  exact (moments now List.mem_cons_self).1.1

theorem evaluationsSucc (text : List Char) (w : W) (n : Nat) :
    evaluations exec text w (n + 1) =
      ((evaluations exec text w n).1 ++
          [(stateRuns.run (evaluate exec) (evaluations exec text w n).2).1],
        (stateRuns.run (evaluate exec) (evaluations exec text w n).2).2) :=
  repeatedSucc _ n _

theorem remainingSucc (exec : Exec (StateM W)) (text : List Char) (w : W) (n : Nat) :
    (evaluations exec text w (n + 1)).2.1.remaining +
        inHand (fun _ => 1) (stateRuns.run (evaluate exec) (evaluations exec text w n).2).1 ≤
      (evaluations exec text w n).2.1.remaining := by
  rw [remainingOf (evaluationsPushed text w n), remainingOf (evaluationsPushed text w (n + 1)),
    evaluationsSucc]
  exact evaluateCarries (evaluations exec text w n).2

theorem answersBounded (exec : Exec (StateM W)) (text : List Char) (w : W) (n : Nat) :
    (evaluations exec text w n).2.1.remaining +
      (evaluations exec text w n).1.countP Except.isOk ≤ text.length := by
  induction n with
  | zero => simp [evaluations, repeated, ofText, remaining]
  | succ n ih =>
    have less := remainingSucc exec text w n
    rw [evaluationsSucc] at less ⊢
    generalize stateRuns.run (evaluate exec) (evaluations exec text w n).2 = o at less ⊢
    obtain ⟨answer, s⟩ := o
    have one : [answer].countP Except.isOk = inHand (fun _ => 1) answer := by
      cases answer <;> rfl
    rw [List.countP_append, one]
    dsimp only at less ⊢
    omega

end Tokenizer

theorem Grammar.Call.long {s : List Char} {v : Value} {w w' : W}
    (called : Grammar.Call exec w s v w') : 4 ≤ s.length := by
  cases called with
  | mk before named given behind indexed params answer =>
    obtain ⟨_, _, rfl, _⟩ := params.head
    cases named with
    | nil => contradiction
    | cons head tail =>
      obtain ⟨_, _, rfl, _⟩ := head.starts
      simp only [List.length_append, List.length_cons]
      omega

namespace Token

theorem scanFromReal {c : Char} {s : List Char} {n : Nat} {w w' : W}
    (ok : perform (scanFrom exec c s) w = ((.ok .finish, n), w')) : False := by
  unfold scanFrom at ok
  split at ok
  · exact pairNot ok nofun
  · exact pairNot ok nofun
  · exact pairNot ok nofun
  · exact equalsNot ok nofun nofun
  · exact equalsNot ok nofun nofun
  · exact equalsNot ok nofun nofun
  · cases ok
  · cases ok
  · rw [performBind] at ok
    generalize perform (Scan.quoted exec s) w = o at ok
    obtain ⟨⟨_ | t, k⟩, w₁⟩ := o <;> cases ok
  · rw [performBind] at ok
    generalize perform (Scan.call exec s) w = o at ok
    obtain ⟨⟨_ | v, k⟩, w₁⟩ := o <;> cases ok
  · split at ok
    · cases ok
    · rw [performBind] at ok
      generalize perform (Scan.text exec endsLiteral (c :: s)) w = o at ok
      obtain ⟨⟨_ | t, k⟩, w₁⟩ := o <;> cases ok

theorem scanFinish {s : List Char} {n : Nat} {w w' : W}
    (ok : perform (scan exec s) w = ((.ok .finish, n), w')) : n = s.length := by
  obtain ⟨_, size⟩ | ⟨gap, c, r, k, rfl, _, _, _, first⟩ := scanOf ok
  · exact size
  · exact (scanFromReal first).elim

end Token

namespace Tokenizer

theorem scanAtEnd {s : Tokenizer × W} (read : s.1.unread = []) :
    stateRuns.run (scan exec) s = (.ok .finish, s) := by
  obtain ⟨⟨whole, unread, pushed⟩, w⟩ := s
  obtain rfl : unread = [] := read
  rw [runScan, Token.scan]
  rfl

theorem scanEnds {s : Tokenizer × W} (ended : (stateRuns.run (scan exec) s).1 = .ok .finish) :
    (stateRuns.run (scan exec) s).2.1.unread = [] := by
  rw [runScan] at ended ⊢
  generalize read : perform (Token.scan exec s.1.unread) s.2 = o at ended ⊢
  obtain ⟨⟨_ | t, n⟩, w⟩ := o
  · cases ended
  · cases ended
    rw [Token.scanFinish read]
    exact List.drop_length

theorem sessionAtEnd (steps : List Step) {s : Tokenizer × W} (read : s.1.unread = []) :
    (session exec steps s).2.1.unread = [] := by
  have beyond : s.1.Beyond s.1.whole [] (s.1.size + 1) :=
    ⟨rfl, read ▸ List.nil_suffix, Nat.lt_succ_self _⟩
  obtain ⟨-, -, none, -⟩ := sessionWalks exec
    (l := ⟨1, s.1.size + 1 + (steps.map Step.grant).sum⟩) steps List.nil_suffix Nat.zero_lt_one beyond
    (Nat.le_refl _)
  exact List.suffix_nil.mp none

theorem streamEnds {text : List Char} {w : W} {i j : Nat} (later : i ≤ j)
    (ended : stream exec text w i = .ok .finish) : stream exec text w j = .ok .finish := by
  obtain rfl | further := Nat.eq_or_lt_of_le later
  · exact ended
  · have none : (scans exec text w j).2.1.unread = [] := by
      clear later
      induction j, further using Nat.le_induction with
      | base =>
        rw [scansSucc]
        exact scanEnds ended
      | succ j later ih =>
        rw [scansSucc, scanAtEnd ih]
        exact ih
    rw [stream, scanAtEnd none]

theorem sessionEvaluates (n : Nat) (s : Tokenizer × W) :
    session exec (List.replicate n .evaluate) s =
      ((repeated (stateRuns.run (evaluate exec)) n s).1.map (Except.map Answer.truth),
        (repeated (stateRuns.run (evaluate exec)) n s).2) := by
  induction n generalizing s with
  | zero => rfl
  | succ n ih =>
    have one : Step.evaluate.run exec s =
        ((stateRuns.run (evaluate exec) s).1.map Answer.truth,
          (stateRuns.run (evaluate exec) s).2) := by
      rw [Step.run, Step.act, stateRuns.chain]
      rcases stateRuns.run (evaluate exec) s with ⟨_ | b, s'⟩
      · rfl
      · rfl
    rw [List.replicate_succ, session, one, repeated]
    simp only [ih, List.map_cons]

end Tokenizer

open Tokenizer in
structure Progress {X : Type} (host : Host (StateM W) X) (c : Context X) (text : String) (w : W) :
    Prop where
  evals : ∀ extra, ∃ result k,
    walk (Walk.evaluate (c.exec host) (.enough text [] extra)) (.start text w) = .ok (result, k) ∧
      perform (c.eval host text) w = (result.mapError (·.within (.evaluating text)), k.world)
  expands : ∀ extra, ∃ result k,
    walk (Walk.text (c.exec host) (fun _ => false) (3 * text.length + 1 + extra)) (.start text w) =
        .ok (result, k) ∧
      perform (c.expand host text) w =
        ((result.map String.ofList).mapError (·.within (.expanding text)), k.world)
  evaluates : ∀ n extra, ∃ k,
    Walk.session (c.exec host) (.enough text [] extra) (List.replicate n .evaluate)
        (.start text w) =
      .ok ((evaluations (c.exec host) text.toList w n).1.map (Except.map Answer.truth), k)
  -- The first character of a call and the opening quote have been read before.
  calls : ∀ s v n w₁ w₂, perform (Scan.call (c.exec host) s) w₁ = ((.ok v, n), w₂) →
    3 ≤ n ∧ n ≤ s.length
  quotes : ∀ s t n w₁ w₂, perform (Scan.quoted (c.exec host) s) w₁ = ((.ok t, n), w₂) →
    1 ≤ n ∧ n ≤ s.length
  tokens : ∀ s t n w₁ w₂, perform (Token.scan (c.exec host) s) w₁ = ((.ok t, n), w₂) →
    t ≠ .finish → 1 ≤ n ∧ n ≤ s.length
  kept : ∀ n, (evaluations (c.exec host) text.toList w (n + 1)).2.1.remaining ≤
    (evaluations (c.exec host) text.toList w n).2.1.remaining
  lowered : ∀ n b, (evaluations (c.exec host) text.toList w (n + 1)).1[n]? = some (.ok b) →
    (evaluations (c.exec host) text.toList w (n + 1)).2.1.remaining <
      (evaluations (c.exec host) text.toList w n).2.1.remaining
  answers : ∀ n, (evaluations (c.exec host) text.toList w n).1.countP Except.isOk ≤ text.length
  ended : ∀ i j, i ≤ j → stream (c.exec host) text.toList w i = .ok .finish →
    stream (c.exec host) text.toList w j = .ok .finish
  behindEnd : ∀ s : Tokenizer × W, (stateRuns.run (scan (c.exec host)) s).1 = .ok .finish →
    ∀ steps, (stateRuns.run (scan (c.exec host))
      (session (c.exec host) steps (stateRuns.run (scan (c.exec host)) s).2).2).1 = .ok .finish

theorem readingProgresses {X : Type} (host : Host (StateM W) X) (c : Context X) (text : String)
    (w : W) : Progress host c text w where
  evals extra := ⟨_, _, evaluateFromStart (c.exec host) text extra w, rfl⟩
  expands extra := by
    obtain ⟨k, walked, world, -⟩ := expandFromStart (c.exec host) text extra w
    refine ⟨_, k, walked, ?_⟩
    unfold Context.expand
    rw [performBind, world]
    rcases perform (Template.expand (c.exec host) text.toList) w with ⟨f | s, w'⟩
    · rfl
    · rfl
  evaluates n extra := by
    have granted : ((List.replicate n Step.evaluate).map Step.grant).sum ≤
        (([] : List Step).map Step.grant).sum := by simp [Step.grant]
    have walked := (sessionFromStart (c.exec host) text _ granted extra w).1
    rw [Tokenizer.sessionEvaluates] at walked
    exact ⟨_, walked⟩
  calls s v n w₁ w₂ ok := by
    obtain ⟨u, r, rfl, rfl, called⟩ := Grammar.callSound ok
    have long := called.long
    rw [List.length_cons] at long
    rw [List.length_append]
    omega
  quotes s t n w₁ w₂ ok := by
    obtain ⟨u, r, rfl, rfl, -⟩ := Grammar.quotedSound ok
    rw [List.length_append, List.length_cons]
    omega
  tokens s t n w₁ w₂ ok real := by
    obtain ⟨u, r, rfl, rfl, -⟩ := Token.scanLocal _ _ _ _ _ ok
    have fewer := Token.scanTakes real ok
    rw [List.length_drop] at fewer
    rw [List.length_append]
    omega
  kept n := Nat.le_of_add_right_le (Tokenizer.remainingSucc (c.exec host) text.toList w n)
  lowered n b ok := by
    have length : (Tokenizer.evaluations (c.exec host) text.toList w n).1.length = n :=
      repeatedLength _ n _
    have less := Tokenizer.remainingSucc (c.exec host) text.toList w n
    rw [Tokenizer.evaluationsSucc, List.getElem?_append_right (Nat.le_of_eq length), length,
      Nat.sub_self, List.getElem?_cons_zero, Option.some.injEq] at ok
    rw [ok] at less
    exact less
  answers n := by
    have bounded := Tokenizer.answersBounded (c.exec host) text.toList w n
    rw [String.length_toList] at bounded
    exact Nat.le_of_add_left_le bounded
  ended i j later ended := Tokenizer.streamEnds later ended
  behindEnd s ended steps := by
    rw [Tokenizer.scanAtEnd (Tokenizer.sessionAtEnd steps (Tokenizer.scanEnds ended))]

end Descriptor
