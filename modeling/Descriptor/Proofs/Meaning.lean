import Descriptor.Proofs.Pushback
import Descriptor.Proofs.Tree
/-!
What evaluation gives for the tokens of a tree is what the tree means. A production that comes to
its end without being cut has taken all tokens of its tree and no other; one that is cut stands at
the operator whose right side is left out.
-/
namespace Descriptor
open Condition

namespace Condition

def GoesOn (stream : Nat → Except Failure Token) (i : Nat) (ts : List Token) : Prop :=
  ∀ k t, ts[k]? = some t → stream (i + k) = .ok t

section
variable {stream : Nat → Except Failure Token} {i : Nat}

theorem goesOnCons {t : Token} {ts : List Token} :
    GoesOn stream i (t :: ts) ↔ stream i = .ok t ∧ GoesOn stream (i + 1) ts := by
  constructor
  · intro goes
    refine ⟨goes 0 t rfl, fun k u given => ?_⟩
    have same := goes (k + 1) u given
    rwa [Nat.add_comm k 1, ← Nat.add_assoc] at same
  · intro ⟨first, goes⟩ k u given
    cases k with
    | zero =>
      cases given
      exact first
    | succ k =>
      have same := goes k u given
      rwa [Nat.add_assoc, Nat.add_comm 1 k] at same

theorem goesOnAppend {ts us : List Token} :
    GoesOn stream i (ts ++ us) ↔ GoesOn stream i ts ∧ GoesOn stream (i + ts.length) us := by
  induction ts generalizing i with
  | nil => simp [GoesOn]
  | cons t ts ih =>
    rw [List.cons_append, goesOnCons, goesOnCons, ih, List.length_cons, and_assoc, Nat.add_assoc,
      Nat.add_comm 1]

/- What a run comes to: a result and an end that the meaning allows, or the error that it is. -/
def Gives {α β : Type} (result : α → β) (Ends : α → Nat → Prop) (meaning : Except ExpressionError α)
    (run : Except Failure β × Nat) : Prop :=
  match meaning with
  | .ok a => run.1 = .ok (result a) ∧ Ends a run.2
  | .error e => run.1 = .error (.of (.expression e))

/- What is cut ends at the operator that cuts it, and what is not ends behind its tokens. -/
def Verdict.Ends (stream : Nat → Except Failure Token) (stop : Nat) (cuts : List Token) (v : Verdict)
    (i : Nat) : Prop :=
  if v.cut then ∃ t ∈ cuts, stream i = .ok t else i = stop

def At {α : Type} (stop : Nat) (_ : α) (i : Nat) : Prop := i = stop

theorem givesChain {α β γ δ : Type} {result : α → β} {result' : γ → δ} {Ends : α → Nat → Prop}
    {Ends' : γ → Nat → Prop} {meaning : Except ExpressionError α}
    {meaning' : α → Except ExpressionError γ} {x : ExceptT Failure (StateM Nat) β}
    {f : β → ExceptT Failure (StateM Nat) δ} (one : Gives result Ends meaning (indexRuns.run x i))
    (more : ∀ a j, Ends a j → Gives result' Ends' (meaning' a) (indexRuns.run (f (result a)) j)) :
    Gives result' Ends' (meaning >>= meaning') (indexRuns.run (x >>= f) i) := by
  rw [indexRuns.chain]
  generalize indexRuns.run x i = o at one
  obtain ⟨answer, j⟩ := o
  cases meaning with
  | error e =>
    obtain rfl : answer = .error (.of (.expression e)) := one
    rfl
  | ok a =>
    obtain ⟨same, ends⟩ := one
    obtain rfl : answer = .ok (result a) := same
    exact more a j ends

theorem givesMap {α β γ : Type} {result : α → β} {result' : γ → β} {Ends : α → Nat → Prop}
    {Ends' : γ → Nat → Prop} {meaning : Except ExpressionError α} {g : α → γ}
    {run : Except Failure β × Nat} (one : Gives result Ends meaning run)
    (same : ∀ a, result' (g a) = result a) (more : ∀ a j, Ends a j → Ends' (g a) j) :
    Gives result' Ends' (meaning >>= fun a => pure (g a)) run := by
  cases meaning with
  | error e => exact one
  | ok a => exact ⟨one.1.trans (congrArg _ (same a).symm), more a run.2 one.2⟩

theorem givesRelax {α β : Type} {result : α → β} {Ends Ends' : α → Nat → Prop}
    {meaning : Except ExpressionError α} {run : Except Failure β × Nat}
    (one : Gives result Ends meaning run) (more : ∀ a j, Ends a j → Ends' a j) :
    Gives result Ends' meaning run := by
  cases meaning with
  | error e => exact one
  | ok a => exact ⟨one.1, more a run.2 one.2⟩

theorem runRead {β : Type} {f : Token → ExceptT Failure (StateM Nat) β} {t : Token}
    (given : stream i = .ok t) :
    indexRuns.run ((indexed stream).next >>= f) i = indexRuns.run (f t) (i + 1) := by
  have read : indexRuns.run (indexed stream).next i = (stream i, i + 1) := rfl
  rw [indexRuns.chain, read, given]

theorem runPutBack {β : Type} {f : Unit → ExceptT Failure (StateM Nat) β} (t : Token) :
    indexRuns.run ((indexed stream).pushBack t >>= f) (i + 1) = indexRuns.run (f ()) i := rfl

theorem runPlainPrimary {inner : Level (ExceptT Failure (StateM Nat))} {t : Token}
    (given : stream i = .ok t) (plain : t ≠ .not) :
    indexRuns.run (primary (indexed stream) inner) i = (.ok t, i + 1) := by
  unfold primary
  rw [runRead given, if_pos plain]
  rfl

theorem Verdict.Ends.cutAt {holds : Bool} {stop : Nat} {cuts : List Token}
    (ends : Verdict.Ends stream stop cuts ⟨holds, true⟩ i) : ∃ t ∈ cuts, stream i = .ok t := ends

theorem Verdict.Ends.cutAtAnd {holds : Bool} {stop : Nat}
    (ends : Verdict.Ends stream stop [.and] ⟨holds, true⟩ i) : stream i = .ok .and := by
  obtain ⟨t, operator, given⟩ := ends.cutAt
  rwa [List.mem_singleton.mp operator] at given

theorem Verdict.Ends.widen {v : Verdict} {stop : Nat} (ends : v.Ends stream stop [.and] i) :
    v.Ends stream stop [.and, .or] i := by
  obtain ⟨holds, cut⟩ := v
  cases cut with
  | true =>
    obtain ⟨t, operator, given⟩ := ends.cutAt
    exact ⟨t, List.mem_append_left [Token.or] operator, given⟩
  | false => exact ends

theorem closeGives {α β : Type} {result : α → β} {g : Bool → α} {v : Verdict} {stop : Nat}
    {x : ExceptT Failure (StateM Nat) Token} {f : Token → ExceptT Failure (StateM Nat) β}
    (ends : v.Ends stream stop [.and, .or] i) (close : stream stop = .ok .rightParen)
    (reads : ∀ t, stream i = .ok t → t ≠ .not → indexRuns.run x i = (.ok t, i + 1))
    (unbalanced : ∀ t j, t ≠ .rightParen →
      (indexRuns.run (f t) j).1 = .error (.of (.expression .unbalancedParenthesis)))
    (closed : f .rightParen = pure (result (g v.holds))) :
    Gives result (At (stop + 1)) (v.closed >>= fun b => pure (g b)) (indexRuns.run (x >>= f) i) := by
  obtain ⟨holds, cut⟩ := v
  rw [indexRuns.chain]
  cases cut with
  | true =>
    obtain ⟨t, operator, given⟩ := ends.cutAt
    have other : t ≠ .not ∧ t ≠ .rightParen := by
      simp only [List.mem_cons, List.not_mem_nil, or_false] at operator
      obtain rfl | rfl := operator <;> exact ⟨nofun, nofun⟩
    rw [reads t given other.1]
    exact unbalanced t (i + 1) other.2
  | false =>
    obtain rfl : i = stop := ends
    rw [reads _ close nofun]
    simp only [closed]
    exact ⟨rfl, rfl⟩

section
variable {inner : Level (ExceptT Failure (StateM Nat))} {stop stop' : Nat} {t : Token}

theorem negationGives {meaning : Except ExpressionError Value} (first : stream i = .ok .not)
    (second : stream (i + 1) = .ok t) (plain : t ≠ .leftParen)
    (operand : Gives Token.value (At stop) meaning (indexRuns.run inner.primary (i + 1))) :
    Gives Token.value (At stop) (do return .bool !(← meaning).isTrue)
      (indexRuns.run (primary (indexed stream) inner) i) := by
  unfold primary
  rw [runRead first, if_neg (by simp), runRead second, if_neg plain, runPutBack]
  apply givesChain operand
  intro v j ends
  exact ⟨rfl, ends⟩

theorem negatedGroupGives {meaning : Except ExpressionError Verdict} (first : stream i = .ok .not)
    (second : stream (i + 1) = .ok .leftParen)
    (inside : Gives Verdict.holds (Verdict.Ends stream stop [.and, .or]) meaning
      (indexRuns.run inner.condition (i + 1 + 1))) (close : stream stop = .ok .rightParen) :
    Gives Token.value (At (stop + 1)) (do return .bool !(← (← meaning).closed))
      (indexRuns.run (primary (indexed stream) inner) i) := by
  unfold primary
  rw [runRead first, if_neg (by simp), runRead second, if_pos rfl]
  apply givesChain inside
  intro v j ends
  apply closeGives ends close
  · intro t given _
    change (stream j, j + 1) = _
    rw [given]
  · intro t k other
    rw [if_pos other]
    rfl
  · rfl

theorem groupGives {meaning : Except ExpressionError Verdict} (first : stream i = .ok .leftParen)
    (inside : Gives Verdict.holds (Verdict.Ends stream stop [.and, .or]) meaning
      (indexRuns.run inner.condition (i + 1))) (close : stream stop = .ok .rightParen) :
    Gives id (At (stop + 1)) (do (← meaning).closed)
      (indexRuns.run (relational (indexed stream) inner) i) := by
  unfold relational
  rw [indexRuns.chain, runPlainPrimary first nofun]
  simp only [if_true]
  apply givesChain inside
  intro v j ends
  rw [← bind_pure v.closed]
  apply closeGives ends close
  · intro t given plain
    exact runPlainPrimary given plain
  · intro t k other
    rw [if_pos other]
    rfl
  · rfl

theorem aloneGives {meaning : Except ExpressionError Value}
    (operand : Gives Token.value (At stop) meaning
      (indexRuns.run (primary (indexed stream) inner) i))
    (next : stream stop = .ok t) (other : ∀ r, t ≠ .relation r) :
    Gives id (At stop) (do return (← meaning).isTrue)
      (indexRuns.run (relational (indexed stream) inner) i) := by
  unfold relational
  apply givesChain operand
  intro v j ends
  obtain rfl : j = stop := ends
  rw [if_neg (by simp), runRead next]
  cases t with
  | relation r => exact absurd rfl (other r)
  | _ => exact ⟨rfl, rfl⟩

theorem relationGives {meaning meaning' : Except ExpressionError Value} {r : Relation}
    (left : Gives Token.value (At stop) meaning (indexRuns.run (primary (indexed stream) inner) i))
    (operator : stream stop = .ok (.relation r))
    (right : Gives Token.value (At stop') meaning'
      (indexRuns.run (primary (indexed stream) inner) (stop + 1))) :
    Gives id (At stop') (do return (← meaning).relate r (← meaning'))
      (indexRuns.run (relational (indexed stream) inner) i) := by
  unfold relational
  apply givesChain left
  intro v j ends
  obtain rfl : j = stop := ends
  rw [if_neg (by simp), runRead operator]
  apply givesChain right
  intro u k ends
  exact ⟨rfl, ends⟩

theorem conjunctionOneGives {meaning : Except ExpressionError Bool}
    (operand : Gives id (At stop) meaning (indexRuns.run (relational (indexed stream) inner) i))
    (next : stream stop = .ok t) (other : t ≠ .and) :
    Gives Verdict.holds (Verdict.Ends stream stop [.and]) (do return ⟨← meaning, false⟩)
      (indexRuns.run (conjunction (indexed stream) inner) i) := by
  unfold conjunction
  apply givesChain operand
  intro b j ends
  obtain rfl : j = stop := ends
  cases b with
  | true =>
    simp only [id, if_true]
    rw [runRead next, if_neg other]
    exact ⟨rfl, rfl⟩
  | false => exact ⟨rfl, rfl⟩

theorem conjunctionBothGives {meaning meaning' : Except ExpressionError Bool}
    (left : Gives id (At stop) meaning (indexRuns.run (relational (indexed stream) inner) i))
    (operator : stream stop = .ok .and)
    (right : Gives id (At stop') meaning'
      (indexRuns.run (relational (indexed stream) inner) (stop + 1))) :
    Gives Verdict.holds (Verdict.Ends stream stop' [.and])
      (do if ← meaning then return ⟨← meaning', false⟩ else return ⟨false, true⟩)
      (indexRuns.run (conjunction (indexed stream) inner) i) := by
  unfold conjunction
  apply givesChain left
  intro b j ends
  obtain rfl : j = stop := ends
  cases b with
  | true =>
    simp only [id, if_true]
    rw [runRead operator, if_pos rfl]
    apply givesMap right
    · intro c
      rfl
    · intro c k ends
      exact ends
  | false => exact ⟨rfl, .and, List.mem_singleton_self _, operator⟩

theorem disjunctionOneGives {meaning : Except ExpressionError Verdict}
    (operand : Gives Verdict.holds (Verdict.Ends stream stop [.and]) meaning
      (indexRuns.run (conjunction (indexed stream) inner) i))
    (next : stream stop = .ok t) (other : t ≠ .or) :
    Gives Verdict.holds (Verdict.Ends stream stop [.and, .or]) meaning
      (indexRuns.run (disjunction (indexed stream) inner) i) := by
  unfold disjunction
  rw [← bind_pure meaning]
  apply givesChain operand
  intro v j ends
  obtain ⟨holds, cut⟩ := v
  cases holds with
  | true => exact ⟨rfl, ends.widen⟩
  | false =>
    obtain ⟨u, given, other⟩ : ∃ u, stream j = .ok u ∧ u ≠ .or := by
      cases cut with
      | true => exact ⟨.and, ends.cutAtAnd, nofun⟩
      | false =>
        obtain rfl : j = stop := ends
        exact ⟨t, next, other⟩
    simp only [Bool.false_eq_true, if_false]
    rw [runRead given, if_neg other]
    exact ⟨rfl, ends.widen⟩

/- A conjunction that is cut stands before its own operator, and so the right side of the
disjunction is out of reach even though the left one does not hold. -/
theorem disjunctionBothGives {meaning meaning' : Except ExpressionError Verdict}
    (left : Gives Verdict.holds (Verdict.Ends stream stop [.and]) meaning
      (indexRuns.run (conjunction (indexed stream) inner) i))
    (operator : stream stop = .ok .or)
    (right : Gives Verdict.holds (Verdict.Ends stream stop' [.and]) meaning'
      (indexRuns.run (conjunction (indexed stream) inner) (stop + 1))) :
    Gives Verdict.holds (Verdict.Ends stream stop' [.and, .or])
      (do
        let left ← meaning
        if left.holds then return ⟨true, true⟩
        else if left.cut then return ⟨false, true⟩
        else meaning')
      (indexRuns.run (disjunction (indexed stream) inner) i) := by
  unfold disjunction
  apply givesChain left
  intro v j ends
  obtain ⟨holds, cut⟩ := v
  cases holds with
  | true =>
    refine ⟨rfl, ?_⟩
    cases cut with
    | true => exact ⟨.and, by simp, ends.cutAtAnd⟩
    | false =>
      obtain rfl : j = stop := ends
      exact ⟨.or, by simp, operator⟩
  | false =>
    simp only [Bool.false_eq_true, if_false]
    cases cut with
    | true =>
      rw [runRead ends.cutAtAnd, if_neg (show ¬ Token.and = .or from nofun)]
      exact ⟨rfl, .and, by simp, ends.cutAtAnd⟩
    | false =>
      obtain rfl : j = stop := ends
      rw [runRead operator, if_pos (rfl : Token.or = .or)]
      exact givesRelax right fun _ _ => Verdict.Ends.widen

end

theorem Primary.starts (p : Primary) : ∃ t ts, p.tokens = t :: ts ∧ t ≠ .leftParen := by
  cases p with
  | value v => exact ⟨_, _, rfl, nofun⟩
  | not p => exact ⟨_, _, rfl, nofun⟩
  | notGrouped d => exact ⟨_, _, rfl, nofun⟩

/- Each level further in costs a token, so that as many levels as tokens are enough. What may follow
a tree are the tokens that can follow it in a larger one. -/
mutual
theorem primaryMeans (p : Primary) {n : Nat} (levels : p.tokens.length ≤ n + 1) {i : Nat}
    (goes : GoesOn stream i p.tokens) :
    Gives Token.value (At (i + p.tokens.length)) p.meaning
      (indexRuns.run (primary (indexed stream) (level (indexed stream) n)) i) := by
  cases p with
  | value v =>
    obtain ⟨first, -⟩ := goesOnCons.mp goes
    rw [runPlainPrimary first nofun]
    exact ⟨rfl, rfl⟩
  | not p =>
    have total : i + (Primary.not p).tokens.length = i + 1 + p.tokens.length := by
      simp only [Primary.tokens, List.length_cons]
      omega
    rw [Primary.tokens] at goes levels
    obtain ⟨first, goes⟩ := goesOnCons.mp goes
    obtain ⟨t, ts, starts, plain⟩ := p.starts
    obtain ⟨second, -⟩ := goesOnCons.mp (starts ▸ goes)
    rw [List.length_cons] at levels
    obtain ⟨m, rfl⟩ : ∃ m, n = m + 1 := ⟨n - 1, by rw [starts, List.length_cons] at levels; omega⟩
    rw [Primary.meaning, total]
    exact negationGives first second plain (primaryMeans p (by omega) goes)
  | notGrouped d =>
    have total : i + (Primary.notGrouped d).tokens.length = i + 1 + 1 + d.tokens.length + 1 := by
      simp only [Primary.tokens, List.length_cons, List.length_append, List.length_nil]
      omega
    rw [Primary.tokens] at goes levels
    obtain ⟨first, goes⟩ := goesOnCons.mp goes
    obtain ⟨second, goes⟩ := goesOnCons.mp goes
    obtain ⟨goes, close⟩ := goesOnAppend.mp goes
    obtain ⟨close, -⟩ := goesOnCons.mp close
    simp only [List.length_cons, List.length_append, List.length_nil] at levels
    obtain ⟨m, rfl⟩ : ∃ m, n = m + 1 := ⟨n - 1, by omega⟩
    rw [Primary.meaning, total]
    exact negatedGroupGives first second (disjunctionMeans d (by omega) goes close (by simp)) close

theorem relationalMeans (r : Relational) {n : Nat} (levels : r.tokens.length ≤ n + 1) {i : Nat}
    (goes : GoesOn stream i r.tokens) {t : Token} (next : stream (i + r.tokens.length) = .ok t)
    (stops : t ∈ [.and, .or, .rightParen, .finish]) :
    Gives id (At (i + r.tokens.length)) r.meaning
      (indexRuns.run (relational (indexed stream) (level (indexed stream) n)) i) := by
  cases r with
  | grouped d =>
    have total : i + (Relational.grouped d).tokens.length = i + 1 + d.tokens.length + 1 := by
      simp only [Relational.tokens, List.length_cons, List.length_append, List.length_nil]
      omega
    rw [Relational.tokens] at goes levels
    obtain ⟨first, goes⟩ := goesOnCons.mp goes
    obtain ⟨goes, close⟩ := goesOnAppend.mp goes
    obtain ⟨close, -⟩ := goesOnCons.mp close
    simp only [List.length_cons, List.length_append, List.length_nil] at levels
    obtain ⟨m, rfl⟩ : ∃ m, n = m + 1 := ⟨n - 1, by omega⟩
    rw [Relational.meaning, total]
    exact groupGives first (disjunctionMeans d (by omega) goes close (by simp)) close
  | alone p =>
    have other : ∀ r, t ≠ .relation r := by
      intro r same
      subst same
      simp at stops
    rw [Relational.tokens] at goes levels next
    rw [Relational.meaning, Relational.tokens]
    exact aloneGives (primaryMeans p levels goes) next other
  | related p r q =>
    have total : i + (Relational.related p r q).tokens.length =
        i + p.tokens.length + 1 + q.tokens.length := by
      simp only [Relational.tokens, List.length_append, List.length_cons]
      omega
    rw [Relational.tokens] at goes levels
    obtain ⟨left, goes⟩ := goesOnAppend.mp goes
    obtain ⟨operator, right⟩ := goesOnCons.mp goes
    simp only [List.length_append, List.length_cons] at levels
    rw [Relational.meaning, total]
    exact relationGives (primaryMeans p (by omega) left) operator (primaryMeans q (by omega) right)

theorem conjunctionMeans (a : Conjunction) {n : Nat} (levels : a.tokens.length ≤ n + 1) {i : Nat}
    (goes : GoesOn stream i a.tokens) {t : Token} (next : stream (i + a.tokens.length) = .ok t)
    (stops : t ∈ [.or, .rightParen, .finish]) :
    Gives Verdict.holds (Verdict.Ends stream (i + a.tokens.length) [.and]) a.meaning
      (indexRuns.run (conjunction (indexed stream) (level (indexed stream) n)) i) := by
  have stops' := List.mem_cons_of_mem Token.and stops
  cases a with
  | one r =>
    have other : t ≠ .and := by
      intro same
      subst same
      simp at stops
    rw [Conjunction.tokens] at goes levels next
    rw [Conjunction.meaning, Conjunction.tokens]
    exact conjunctionOneGives (relationalMeans r levels goes next stops') next other
  | both r s =>
    have total : i + (Conjunction.both r s).tokens.length =
        i + r.tokens.length + 1 + s.tokens.length := by
      simp only [Conjunction.tokens, List.length_append, List.length_cons]
      omega
    rw [Conjunction.tokens] at goes levels
    obtain ⟨left, goes⟩ := goesOnAppend.mp goes
    obtain ⟨operator, right⟩ := goesOnCons.mp goes
    simp only [List.length_append, List.length_cons] at levels
    rw [total] at next
    rw [Conjunction.meaning, total]
    exact conjunctionBothGives (relationalMeans r (by omega) left operator (by simp)) operator
      (relationalMeans s (by omega) right next stops')

theorem disjunctionMeans (d : Disjunction) {n : Nat} (levels : d.tokens.length ≤ n + 1) {i : Nat}
    (goes : GoesOn stream i d.tokens) {t : Token} (next : stream (i + d.tokens.length) = .ok t)
    (stops : t ∈ [.rightParen, .finish]) :
    Gives Verdict.holds (Verdict.Ends stream (i + d.tokens.length) [.and, .or]) d.meaning
      (indexRuns.run (disjunction (indexed stream) (level (indexed stream) n)) i) := by
  have stops' := List.mem_cons_of_mem Token.or stops
  cases d with
  | one a =>
    have other : t ≠ .or := by
      intro same
      subst same
      simp at stops
    rw [Disjunction.tokens] at goes levels next
    rw [Disjunction.meaning, Disjunction.tokens]
    exact disjunctionOneGives (conjunctionMeans a levels goes next stops') next other
  | either a b =>
    have total : i + (Disjunction.either a b).tokens.length =
        i + a.tokens.length + 1 + b.tokens.length := by
      simp only [Disjunction.tokens, List.length_append, List.length_cons]
      omega
    rw [Disjunction.tokens] at goes levels
    obtain ⟨left, goes⟩ := goesOnAppend.mp goes
    obtain ⟨operator, right⟩ := goesOnCons.mp goes
    simp only [List.length_append, List.length_cons] at levels
    rw [total] at next
    rw [Disjunction.meaning, total]
    exact disjunctionBothGives (conjunctionMeans a (by omega) left operator (by simp)) operator
      (conjunctionMeans b (by omega) right next stops')
end

end
end Condition

namespace Tokenizer

variable {W : Type} (exec : Exec (StateM W)) (text : List Char) (w : W)

theorem evaluatesTree (tree : Disjunction)
    (scanned : ∀ i t, (tree.tokens ++ [.finish])[i]? = some t → stream exec text w i = .ok t) :
    (stateRuns.run (evaluate exec) (.ofText text, w)).1 =
        (tree.meaning.map Verdict.holds).mapError (fun e => .of (.expression e)) ∧
      ∀ v, tree.meaning = .ok v →
        (stateRuns.run (next exec) (stateRuns.run (evaluate exec) (.ofText text, w)).2).1 ∈
          if v.cut then [.ok .and, .ok .or] else [.ok .finish] := by
  have goes : GoesOn (stream exec text w) 0 (tree.tokens ++ [.finish]) := fun i t given => by
    rw [Nat.zero_add]
    exact scanned i t given
  obtain ⟨goes, last⟩ := goesOnAppend.mp goes
  obtain ⟨last, -⟩ := goesOnCons.mp last
  have gives := disjunctionMeans tree (n := text.length + tree.tokens.length) (by omega) goes last
    (by simp)
  obtain ⟨seen, unchanged⟩ := evaluationsWatched exec text w 1 tree.tokens.length
  obtain ⟨answers, synced⟩ := evaluationsSynced exec text w (text.length + 1 + tree.tokens.length) 1
  have upcoming := nextFollows exec text w unchanged synced
  have answer := seen.symm.trans answers
  rw [Nat.add_right_comm] at upcoming answer
  simp only [evaluations, indexedEvaluations, repeated, level, List.cons.injEq,
    and_true] at upcoming answer
  rw [answer, upcoming]
  generalize indexRuns.run _ 0 = o at gives ⊢
  cases meaning : tree.meaning with
  | error e =>
    rw [meaning] at gives
    refine ⟨gives, ?_⟩
    intro v same
    cases same
  | ok v =>
    rw [meaning] at gives
    obtain ⟨value, ends⟩ := gives
    refine ⟨value, ?_⟩
    intro _ same
    cases same
    obtain ⟨holds, cut⟩ := v
    cases cut with
    | false =>
      have stop : o.2 = 0 + tree.tokens.length := ends
      rw [stop]
      exact List.mem_singleton.mpr last
    | true =>
      obtain ⟨t, operator, given⟩ := ends.cutAt
      rw [given]
      exact List.mem_map_of_mem (f := Except.ok) operator

theorem evaluatesCutTree :
    (stateRuns.run (evaluate unknownCalls) (.ofText "''&&x||y".toList, ())).1 = .ok false ∧
      (stateRuns.run (next unknownCalls)
        (stateRuns.run (evaluate unknownCalls) (.ofText "''&&x||y".toList, ())).2).1 ∈
          [.ok .and, .ok .or] := by
  have scanned (i : Nat) (t : Token) (given : ([.value (.string ""), .and, .value (.string "x"), .or,
      .value (.string "y"), .finish] : List Token)[i]? = some t) :
      stream unknownCalls "''&&x||y".toList () i = .ok t := by
    match i with
    | 0 => cases given; decide +kernel
    | 1 => cases given; decide +kernel
    | 2 => cases given; decide +kernel
    | 3 => cases given; decide +kernel
    | 4 => cases given; decide +kernel
    | 5 => cases given; decide +kernel
    | i + 6 => cases given
  have tree := evaluatesTree unknownCalls _ () (.either (.both (.alone (.value (.string "")))
    (.alone (.value (.string "x")))) (.one (.alone (.value (.string "y"))))) scanned
  exact ⟨tree.1, tree.2 _ rfl⟩

end Tokenizer
end Descriptor
