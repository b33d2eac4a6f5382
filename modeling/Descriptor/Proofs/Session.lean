import Mathlib.Algebra.Ring.Nat
import Descriptor.Proofs.Footing
/-!
Sessions. Tokens are read from a text and put back, and conditions are evaluated, in any order and
also behind failures. A walker takes every step that a tokenizer takes, keeps its footing all the
way and never turns back.
-/
namespace Descriptor
open Condition
open Scan (Outcome)
open Text (isBlank)

variable {W : Type}

namespace Walk

section
variable {whole s : List Char} {pushed : List Token} {w : W} {exec : Exec (StateM W)}

theorem walkDouble {c : Char} (t : Token) (inside : c :: s <:+ whole) :
    walk (double c t) (.before whole pushed (c :: s) w) =
      landing whole pushed (c :: s) ((Token.double c t s).behind 1, w) := by
  have tail : s <:+ whole := (List.suffix_cons c s).trans inside
  rw [double, walkThen (walkPlace inside), walkThen (walkBump inside), Token.double]
  split
  · rename_i second
    obtain ⟨r, rfl⟩ := List.head?_eq_some_iff.mp second
    rw [walkThen (walkEat tail)]
    rfl
  · rename_i other
    rw [walkThen (walkEatOther tail other)]
    rfl

theorem walkWithEquals {c : Char} (longer shorter : Token) (inside : c :: s <:+ whole) :
    walk (withEquals longer shorter) (.before whole pushed (c :: s) w) =
      landing whole pushed (c :: s) ((Token.withEquals longer shorter s).behind 1, w) := by
  have tail : s <:+ whole := (List.suffix_cons c s).trans inside
  rw [withEquals, walkThen (walkBump inside), Token.withEquals]
  split
  · rename_i second
    obtain ⟨r, rfl⟩ := List.head?_eq_some_iff.mp second
    rw [walkThen (walkEat tail)]
    rfl
  · rename_i other
    rw [walkThen (walkEatOther tail other)]
    rfl

theorem walkScanFrom {c : Char} (inside : c :: s <:+ whole) (rounds : Nat)
    (enough : 3 * (c :: s).length < rounds) (w : W) :
    walk (scanFrom exec rounds c) (.before whole pushed (c :: s) w) =
      landing whole pushed (c :: s) (perform (Token.scanFrom exec c s) w) := by
  have fewer : 3 * s.length + 1 < rounds := by
    rw [List.length_cons] at enough
    omega
  unfold Token.scanFrom
  split
  · exact walkDouble .or inside
  · exact walkDouble .and inside
  · exact walkDouble (.relation .eq) inside
  · exact walkWithEquals (.relation .ne) .not inside
  · exact walkWithEquals (.relation .le) (.relation .lt) inside
  · exact walkWithEquals (.relation .ge) (.relation .gt) inside
  · rw [scanFrom, walkThen (walkBump inside)]
    rfl
  · rw [scanFrom, walkThen (walkBump inside)]
    rfl
  · have inner := walkQuoted pushed exec inside rounds fewer w
    rw [scanFrom, performBind]
    generalize perform (Scan.quoted exec s) w = o at inner ⊢
    obtain ⟨⟨stop | t, n⟩, w₁⟩ := o
    · rw [walkStops inner]
      simp only [landing, performPure, Nat.add_comm 1 n, List.drop_succ_cons]
      rfl
    · rw [walkThen inner]
      simp only [landing, performPure, Nat.add_comm 1 n, List.drop_succ_cons]
      rfl
  · have called := walkCall pushed exec inside rounds fewer w
    rw [scanFrom, performBind]
    generalize perform (Scan.call exec s) w = o at called ⊢
    obtain ⟨⟨stop | v, n⟩, w₁⟩ := o
    · rw [walkStops called]
      simp only [landing, performPure, Nat.add_comm 1 n, List.drop_succ_cons]
      rfl
    · rw [walkThen called]
      simp only [landing, performPure, Nat.add_comm 1 n, List.drop_succ_cons]
      rfl
  · simp only [scanFrom, *]
    split
    · rw [walkThen (walkPlace inside)]
      rfl
    · have read := walkText pushed exec Token.endsLiteral inside rounds enough w
      rw [performBind]
      generalize perform (Scan.text exec Token.endsLiteral (c :: s)) w = o at read ⊢
      obtain ⟨⟨stop | t, n⟩, w₁⟩ := o
      · rw [walkStops read]
        rfl
      · rw [walkThen read]
        rfl

theorem walkScan (inside : s <:+ whole) (rounds : Nat) (enough : 3 * s.length < rounds) (w : W) :
    walk (scan exec rounds) (.before whole pushed s w) =
      landing whole pushed s (perform (Token.scan exec s) w) := by
  obtain ⟨gap, r, rfl, blank, -, visible⟩ := Grammar.gapOf s
  have rest : r <:+ whole := (List.suffix_append _ _).trans inside
  rw [List.length_append] at enough
  rw [scan, walkThen (walkSkip blank visible inside (by omega)), walkThen (walkPeek rest),
    Token.scanBlanks blank, ← landingBehind, List.drop_left]
  cases r with
  | nil =>
    rw [Token.scan]
    rfl
  | cons c r =>
    rw [Token.scanVisible (visible c rfl)]
    exact walkScanFrom rest rounds (by omega) w

end
end Walk

def Tokenizer.walker (s : Tokenizer × W) : Walker W := .before s.1.whole s.1.pushed s.1.unread s.2

namespace Walk

theorem walkNext (exec : Exec (StateM W)) {k : Tokenizer} (inside : k.unread <:+ k.whole)
    {rounds : Nat} (enough : 3 * k.unread.length < rounds) (w : W) :
    walk (next exec rounds) (Tokenizer.walker (k, w)) =
      .ok ((stateRuns.run (Tokenizer.next exec) (k, w)).1,
        Tokenizer.walker (stateRuns.run (Tokenizer.next exec) (k, w)).2) := by
  have got : walk (get : Walk W (Walker W)) (Tokenizer.walker (k, w)) =
      .ok (.ok (Tokenizer.walker (k, w)), Tokenizer.walker (k, w)) := rfl
  rw [next, walkThen got, Tokenizer.runNext]
  obtain ⟨whole, unread, pushed⟩ := k
  cases pushed with
  | cons t rest => rfl
  | nil =>
    rw [Tokenizer.runScan]
    exact walkScan inside rounds enough w

end Walk

namespace Tokenizer

def Beyond (whole r : List Char) (bound : Nat) (k : Tokenizer) : Prop :=
  k.whole = whole ∧ k.unread <:+ r ∧ k.size < bound

def alongside (whole r : List Char) (bound : Nat) :
    Comparison (Walk W) (Reading (StateM W)) (Tokenizer × W) where
  Always s := s.1.Beyond whole r bound
  Agree P x y Q := ∀ s, P s →
    walk x (walker s) = .ok ((stateRuns.run y s).1, walker (stateRuns.run y s).2) ∧
      match (stateRuns.run y s).1 with
      | .ok a => Q a (stateRuns.run y s).2
      | .error _ => (stateRuns.run y s).2.1.Beyond whole r bound
  done a holds s before := ⟨rfl, holds s before⟩
  failed _ holds s before := ⟨rfl, holds s before⟩
  chain {α β P Q R x y f g} one more s before := by
    obtain ⟨same, behind⟩ := one s before
    rw [stateRuns.chain]
    generalize stateRuns.run y s = o at same behind
    obtain ⟨e | a, s'⟩ := o
    · exact ⟨walkStops same, behind⟩
    · rw [walkThen same]
      exact more a s' behind
  relax agree before behind s holds := by
    obtain ⟨same, holds⟩ := agree s (before s holds)
    refine ⟨same, ?_⟩
    split at holds
    · exact behind _ _ holds
    · exact holds

theorem alongsideAlike {whole r : List Char} {bound : Nat} {P : Tokenizer × W → Prop} {α : Type}
    {x : Walk W α} {y : Reading (StateM W) α}
    (agree : (alongside whole r bound).Agree P x y fun _ s => s.1.Beyond whole r bound)
    {s : Tokenizer × W} (before : P s) :
    walk x (walker s) = .ok ((stateRuns.run y s).1, walker (stateRuns.run y s).2) ∧
      (stateRuns.run y s).2.1.Beyond whole r bound := by
  obtain ⟨same, behind⟩ := agree s before
  refine ⟨same, ?_⟩
  split at behind
  · exact behind
  · exact behind

section
variable (exec : Exec (StateM W)) {whole r : List Char} {rounds : Nat}

theorem nextUnread (k : Tokenizer) (w : W) :
    (stateRuns.run (next exec) (k, w)).2.1.whole = k.whole ∧
      (stateRuns.run (next exec) (k, w)).2.1.unread <:+ k.unread := by
  rw [runNext]
  split
  · exact ⟨rfl, List.suffix_rfl⟩
  · rw [runScan]
    exact ⟨rfl, List.drop_suffix _ _⟩

theorem sourceWalks (bound : Nat) (inside : r <:+ whole) (enough : 3 * r.length < rounds) :
    SourcesAgree (alongside (W := W) whole r bound) (Walk.source exec rounds) (source exec)
      (fun j s => s.1.Beyond whole r bound ∧ s.1.size < j)
      (fun j t s => s.1.Beyond whole r (bound - weight t) ∧ s.1.size + weight t < j) where
  next j := by
    intro (k, w) before
    obtain ⟨⟨rfl, further, fits⟩, level⟩ := before
    have same := Walk.walkNext exec (further.trans inside)
      (Nat.lt_of_le_of_lt (Nat.mul_le_mul_left 3 further.length_le) enough) w
    obtain ⟨text, stays⟩ := nextUnread exec k w
    refine ⟨same, ?_⟩
    have unfolded : stateRuns.run (source exec).next (k, w) =
        stateRuns.run (next exec) (k, w) := rfl
    rw [unfolded]
    generalize ran : stateRuns.run (next exec) (k, w) = o at text stays ⊢
    obtain ⟨e | t, k', w'⟩ := o
    · have size := nextSize exec ran
      simp only [allowance] at size
      exact ⟨text, stays.trans further, by dsimp only at fits ⊢; omega⟩
    · have size := nextSize exec ran
      simp only [allowance] at size
      dsimp only at fits level ⊢
      exact ⟨⟨text, stays.trans further, by omega⟩, by omega⟩
  back j t := by
    intro (k, w) before
    obtain ⟨⟨text, further, fits⟩, level⟩ := before
    have size := sizePushBack t k
    dsimp only at fits level
    have fits : (k.pushBack t).size < bound := by omega
    have level : (k.pushBack t).size < j := by omega
    exact ⟨rfl, ⟨text, further, fits⟩, level⟩
  kept read := by
    obtain ⟨⟨text, further, fits⟩, level⟩ := read
    exact ⟨⟨text, further, by omega⟩, by omega⟩
  within real read := by
    obtain ⟨⟨text, further, fits⟩, level⟩ := read
    rw [weight, if_neg real] at level
    exact ⟨⟨text, further, by omega⟩, by omega⟩
  widen read := ⟨read.1, by omega⟩
  always read := read.1

end
end Tokenizer

structure Limits where
  rounds : Nat
  levels : Nat

namespace Walk

def levels (source : Source (Walk W)) : Nat → Level (Walk W)
  | 0 => ⟨halt .rounds, halt .rounds⟩
  | n + 1 => ⟨disjunction source (levels source n), primary source (levels source n)⟩

def evaluate (exec : Exec (StateM W)) (l : Limits) : Walk W Bool :=
  (levels (source exec l.rounds) l.levels).condition

theorem levelsWalk (exec : Exec (StateM W)) {whole r : List Char} {rounds : Nat} (bound : Nat)
    (inside : r <:+ whole) (enough : 3 * r.length < rounds) (j : Nat) :
    LevelsAgree (Tokenizer.alongside whole r bound)
      (fun s => s.1.Beyond whole r bound ∧ s.1.size < j) (levels (source exec rounds) j)
      (level (Tokenizer.source exec) j) := by
  have agree := Tokenizer.sourceWalks exec bound inside enough
  induction j with
  | zero => exact ⟨fun s none => absurd none.2 (by omega), fun s none => absurd none.2 (by omega)⟩
  | succ j ih =>
    exact ⟨disjunctionAgrees agree ih, Comparison.relax _ (primaryAgrees agree ih)
      (fun _ holds => holds) fun _ _ read => read.1⟩

end Walk

inductive Step
  | next
  | pushBack (t : Token)
  | evaluate
  deriving DecidableEq, Repr

inductive Answer
  | token (t : Token)
  | done
  | truth (b : Bool)
  deriving DecidableEq, Repr

def Step.grant : Step → Nat
  | pushBack t => Tokenizer.weight t
  | _ => 0

def Step.act {μ : Type → Type} [Monad μ] (source : Source μ) (condition : μ Bool) : Step → μ Answer
  | next => return .token (← source.next)
  | pushBack t => do
    source.pushBack t
    return .done
  | evaluate => return .truth (← condition)

def Step.run (exec : Exec (StateM W)) (step : Step) (s : Tokenizer × W) :
    Except Failure Answer × (Tokenizer × W) :=
  stateRuns.run (step.act (Tokenizer.source exec) (Tokenizer.evaluate exec)) s

def Tokenizer.session (exec : Exec (StateM W)) :
    List Step → Tokenizer × W → List (Except Failure Answer) × (Tokenizer × W)
  | [], s => ([], s)
  | step :: steps, s =>
    let (answer, s) := step.run exec s
    let (answers, s) := session exec steps s
    (answer :: answers, s)

def Walk.session (exec : Exec (StateM W)) (l : Limits) :
    List Step → Walker W → Except Halt (List (Except Failure Answer) × Walker W)
  | [], k => return ([], k)
  | step :: steps, k => do
    let (answer, k) ← walk (step.act (source exec l.rounds) (evaluate exec l)) k
    let (answers, k) ← session exec l steps k
    return (answer :: answers, k)

section
variable (exec : Exec (StateM W)) {whole r : List Char} {l : Limits} {bound : Nat}

theorem evaluateWalks (inside : r <:+ whole) (enough : 3 * r.length < l.rounds)
    {s : Tokenizer × W} (beyond : s.1.Beyond whole r bound) (room : bound ≤ l.levels) :
    walk (Walk.evaluate exec l) (Tokenizer.walker s) =
        .ok ((stateRuns.run (Tokenizer.evaluate exec) s).1,
          Tokenizer.walker (stateRuns.run (Tokenizer.evaluate exec) s).2) ∧
      (stateRuns.run (Tokenizer.evaluate exec) s).2.1.Beyond whole r bound := by
  have level : s.1.size < l.levels := Nat.lt_of_lt_of_le beyond.2.2 room
  have agree := Walk.levelsWalk exec bound inside enough l.levels
  rw [(Tokenizer.evaluateLevels exec level s.2).1]
  exact Tokenizer.alongsideAlike (Comparison.relax _ agree.condition (fun _ holds => holds)
    fun _ _ holds => holds.1) ⟨beyond, level⟩

theorem stepWalks (step : Step) (inside : r <:+ whole) (enough : 3 * r.length < l.rounds)
    {s : Tokenizer × W} (beyond : s.1.Beyond whole r bound) (room : bound ≤ l.levels) :
    walk (step.act (Walk.source exec l.rounds) (Walk.evaluate exec l)) (Tokenizer.walker s) =
        .ok ((step.run exec s).1, Tokenizer.walker (step.run exec s).2) ∧
      (step.run exec s).2.1.Beyond whole r (bound + step.grant) := by
  cases step with
  | next =>
    have agree := Tokenizer.sourceWalks exec bound inside enough
    exact Tokenizer.alongsideAlike (Comparison.chain _ (agree.next l.levels) fun t =>
      Comparison.done _ (Answer.token t) fun _ read => (agree.kept read).1)
        ⟨beyond, Nat.lt_of_lt_of_le beyond.2.2 room⟩
  | pushBack t =>
    obtain ⟨text, further, fits⟩ := beyond
    have size : (s.1.pushBack t).size < bound + Tokenizer.weight t := by
      rw [Tokenizer.sizePushBack]
      exact Nat.add_lt_add_right fits _
    exact ⟨rfl, text, further, size⟩
  | evaluate =>
    obtain ⟨same, behind⟩ := evaluateWalks exec inside enough beyond room
    simp only [Step.run, Step.act]
    rw [stateRuns.chain]
    generalize stateRuns.run (Tokenizer.evaluate exec) s = o at same behind ⊢
    obtain ⟨failure | b, s'⟩ := o
    · exact ⟨walkStops same, behind⟩
    · exact ⟨walkThen same, behind⟩

theorem sessionWalks (steps : List Step) (inside : r <:+ whole) (enough : 3 * r.length < l.rounds)
    {s : Tokenizer × W} (beyond : s.1.Beyond whole r bound)
    (room : bound + (steps.map Step.grant).sum ≤ l.levels) :
    Walk.session exec l steps (Tokenizer.walker s) =
        .ok ((Tokenizer.session exec steps s).1, Tokenizer.walker (Tokenizer.session exec steps s).2) ∧
      (Tokenizer.session exec steps s).2.1.Beyond whole r (bound + (steps.map Step.grant).sum) := by
  induction steps generalizing s bound with
  | nil => exact ⟨rfl, beyond⟩
  | cons step steps ih =>
    rw [List.map_cons, List.sum_cons, ← Nat.add_assoc] at room ⊢
    obtain ⟨first, behind⟩ := stepWalks exec step inside enough beyond (by omega)
    obtain ⟨more, last⟩ := ih behind room
    rw [Walk.session, first, Tokenizer.session]
    generalize step.run exec s = o at *
    obtain ⟨answer, s'⟩ := o
    dsimp only at more last ⊢
    refine ⟨?_, last⟩
    change (Walk.session exec l steps (Tokenizer.walker s') >>= _) = _
    rw [more]
    rfl

end

def Walker.start (text : String) (w : W) : Walker W := ⟨text.toList, 0, [], w⟩

structure Walker.OnEdge (k : Walker W) (text : String) : Prop where
  whole : k.whole = text.toList
  within : k.position ≤ text.utf8ByteSize
  boundary : String.Pos.Raw.IsValid text ⟨k.position⟩

def Limits.enough (text : String) (steps : List Step) (extra : Nat) : Limits :=
  ⟨3 * text.length + 1 + extra, text.length + 1 + (steps.map Step.grant).sum + extra⟩

section
variable (exec : Exec (StateM W)) {text : String}

theorem Walker.startBefore (text : String) (w : W) :
    Walker.start text w = .before text.toList [] text.toList w := by
  rw [start, before, Nat.sub_self]

theorem Walker.beforeOnEdge {s : List Char} (inside : s <:+ text.toList) (pushed : List Token)
    (w : W) : (Walker.before text.toList pushed s w).OnEdge text where
  whole := rfl
  within := by
    change bytes text.toList - bytes s ≤ text.utf8ByteSize
    rw [bytes, String.ofList_toList]
    exact Nat.sub_le _ _
  boundary := by
    have valid := cutValid (behindBytesSuffix inside)
    rwa [String.ofList_toList] at valid

theorem startBeyond (text : String) :
    (Tokenizer.ofText text.toList).Beyond text.toList text.toList (text.length + 1) := by
  refine ⟨rfl, List.suffix_rfl, ?_⟩
  rw [← String.length_toList]
  simp [Tokenizer.ofText, Tokenizer.size]

theorem enoughRounds (text : String) (steps : List Step) (extra : Nat) :
    3 * text.toList.length < (Limits.enough text steps extra).rounds := by
  rw [String.length_toList, Limits.enough]
  dsimp only
  omega

theorem sessionFromStart (text : String) (steps : List Step) {allowed : List Step}
    (granted : (steps.map Step.grant).sum ≤ (allowed.map Step.grant).sum) (extra : Nat) (w : W) :
    Walk.session exec (.enough text allowed extra) steps (.start text w) =
        .ok ((Tokenizer.session exec steps (.ofText text.toList, w)).1,
          Tokenizer.walker (Tokenizer.session exec steps (.ofText text.toList, w)).2) ∧
      (Tokenizer.session exec steps (.ofText text.toList, w)).2.1.Beyond text.toList text.toList
        (text.length + 1 + (steps.map Step.grant).sum) := by
  have room : text.length + 1 + (steps.map Step.grant).sum ≤
      (Limits.enough text allowed extra).levels := by
    rw [Limits.enough]
    dsimp only
    omega
  rw [Walker.startBefore]
  exact sessionWalks exec (s := (.ofText text.toList, w)) steps List.suffix_rfl
    (enoughRounds text allowed extra) (startBeyond text) room

theorem evaluateFromStart (text : String) (extra : Nat) (w : W) :
    walk (Walk.evaluate exec (.enough text [] extra)) (.start text w) =
      .ok ((stateRuns.run (Tokenizer.evaluate exec) (.ofText text.toList, w)).1,
        Tokenizer.walker (stateRuns.run (Tokenizer.evaluate exec) (.ofText text.toList, w)).2) := by
  rw [Walker.startBefore]
  exact (evaluateWalks exec (s := (.ofText text.toList, w)) List.suffix_rfl (enoughRounds text [] extra)
    (startBeyond text) (Nat.le_add_right _ extra)).1

theorem expandFromStart (text : String) (extra : Nat) (w : W) : ∃ k : Walker W,
    walk (Walk.text exec (fun _ => false) (3 * text.length + 1 + extra)) (.start text w) =
        .ok ((perform (Template.expand exec text.toList) w).1, k) ∧
      k.world = (perform (Template.expand exec text.toList) w).2 ∧ k.OnEdge text := by
  have walked := Walk.walkText [] exec (fun _ => false) List.suffix_rfl _ (enoughRounds text [] extra) w
  rw [Limits.enough] at walked
  rw [Template.expandRuns, Walker.startBefore, walked]
  generalize perform (Scan.text exec (fun _ => false) text.toList) w = o
  obtain ⟨⟨result, n⟩, w₁⟩ := o
  exact ⟨_, rfl, rfl, Walker.beforeOnEdge (List.drop_suffix n _) [] w₁⟩

theorem walkersKeepFooting (exec : Exec (StateM W)) (text : String) (w : W) (extra : Nat) :
    (∀ steps more : List Step, ∃ k k' : Walker W,
      Walk.session exec (.enough text (steps ++ more) extra) steps (.start text w) =
          .ok ((Tokenizer.session exec steps (.ofText text.toList, w)).1, k) ∧
        Walk.session exec (.enough text (steps ++ more) extra) more k =
          .ok ((Tokenizer.session exec more
            (Tokenizer.session exec steps (.ofText text.toList, w)).2).1, k') ∧
        k.OnEdge text ∧ k'.OnEdge text ∧ k.position ≤ k'.position) ∧
    ∃ k : Walker W,
      walk (Walk.text exec (fun _ => false) (3 * text.length + 1 + extra)) (.start text w) =
          .ok ((perform (Template.expand exec text.toList) w).1, k) ∧
        k.world = (perform (Template.expand exec text.toList) w).2 ∧ k.OnEdge text := by
  refine ⟨fun steps more => ?_, expandFromStart exec text extra w⟩
  have granted : ((steps ++ more).map Step.grant).sum =
      (steps.map Step.grant).sum + (more.map Step.grant).sum := by
    rw [List.map_append, List.sum_append]
  obtain ⟨first, whole, come, fits⟩ := sessionFromStart exec text steps
    (granted ▸ Nat.le_add_right _ _) extra w
  have rounds := enoughRounds text (steps ++ more) extra
  have room : text.length + 1 + (steps.map Step.grant).sum + (more.map Step.grant).sum ≤
      (Limits.enough text (steps ++ more) extra).levels := by
    rw [Limits.enough, granted]
    dsimp only
    omega
  generalize Limits.enough text (steps ++ more) extra = l at first rounds room ⊢
  generalize Tokenizer.session exec steps (.ofText text.toList, w) = o at *
  obtain ⟨answers, ⟨_, unread, pushed⟩, w₁⟩ := o
  obtain rfl := whole
  have fewer : 3 * unread.length < l.rounds :=
    Nat.lt_of_le_of_lt (Nat.mul_le_mul_left 3 come.length_le) rounds
  obtain ⟨second, whole, further, -⟩ :=
    sessionWalks exec (l := l) (s := (⟨text.toList, unread, pushed⟩, w₁)) more come fewer
      ⟨rfl, List.suffix_rfl, fits⟩ room
  generalize Tokenizer.session exec more (⟨text.toList, unread, pushed⟩, w₁) = o at *
  obtain ⟨answers', ⟨_, unread', pushed'⟩, w₂⟩ := o
  obtain rfl := whole
  exact ⟨.before text.toList pushed unread w₁, .before text.toList pushed' unread' w₂, first, second,
    Walker.beforeOnEdge come pushed w₁, Walker.beforeOnEdge (further.trans come) pushed' w₂,
    Nat.sub_le_sub_left (bytesSuffix further) _⟩

example : walk (Walk.peek : Walk Unit _) ⟨['é'], 1, [], ()⟩ = .error .cut := by rfl

example : walk (Walk.quoted unknownCalls 9) (.start "x" ()) = .error .entry := by rfl

end
end Descriptor
