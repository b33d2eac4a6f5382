import Descriptor.Proofs.Levels
/-!
Text that has not been read does not matter. Beyond one character of lookahead, whatever stands
behind the place where evaluation has come to can be exchanged for something else, well formed or
not, and everything goes as it went: the answers, the calls, the tokens that were put back.
-/
namespace Descriptor
open Condition

namespace Tokenizer

variable {W : Type} (exec : Exec (StateM W)) {whole r r' : List Char}

def logged : Exec (StateM (List (Identifier × Parameters) × W)) := fun id ps => do
  let (log, w) ← get
  let (result, w') := perform (exec id ps) w
  set (log ++ [(id, ps)], w')
  return result

def Swapped (whole r r' : List Char) (k l : Tokenizer) : Prop :=
  ∃ u, k.unread = u ++ r ∧ l = ⟨whole, u ++ r', k.pushed⟩

/- What has come to a place in front of `r` would have come to the same in front of `r'`. Failures
promise nothing. -/
def swapping (whole r r' : List Char) :
    Comparison (Reading (StateM W)) (Reading (StateM W)) Unit where
  Always _ := True
  Agree _ x y _ := ∀ k w a k' w' l', stateRuns.run x (k, w) = (.ok a, (k', w')) →
    Swapped whole r r' k' l' →
      ∃ l, Swapped whole r r' k l ∧ stateRuns.run y (l, w) = (.ok a, (l', w'))
  done a _ k w b k' w' l' ran swapped := by
    cases ran
    exact ⟨l', swapped, rfl⟩
  failed _ _ k w b k' w' l' ran _ := by
    cases ran
  chain {α β P Q R x y f g} one more k w b k'' w'' l'' ran swapped := by
    rw [stateRuns.chain] at ran
    generalize first : stateRuns.run x (k, w) = o at ran
    obtain ⟨_ | a, k', w'⟩ := o
    · cases ran
    · obtain ⟨l', between, second⟩ := more a k' w' b k'' w'' l'' ran swapped
      obtain ⟨l, start, first'⟩ := one k w a k' w' l' first between
      refine ⟨l, start, ?_⟩
      rw [stateRuns.chain, first']
      exact second
  relax agree _ _ := agree

theorem scanSwaps (alike : r'.head? = r.head?) {k k' l' : Tokenizer} {w w' : W} {t : Token}
    (ran : stateRuns.run (scan exec) (k, w) = (.ok t, (k', w')))
    (swapped : Swapped whole r r' k' l') :
    ∃ l, Swapped whole r r' k l ∧ stateRuns.run (scan exec) (l, w) = (.ok t, (l', w')) := by
  rw [runScan] at ran
  generalize read : perform (Token.scan exec k.unread) w = o at ran
  obtain ⟨⟨_ | t', n⟩, v⟩ := o
  · cases ran
  · cases ran
    obtain ⟨v, s, text, size, again⟩ := Token.scanLocal _ _ _ _ _ read
    obtain ⟨u, rest, rfl⟩ := swapped
    obtain rfl : v.length = n := size
    simp only [text, List.drop_left] at rest
    subst rest
    have begins : (u ++ r').head? = (u ++ r).head? := by
      cases u with
      | nil => exact alike
      | cons c u => rfl
    refine ⟨⟨whole, v ++ (u ++ r'), k.pushed⟩, ⟨v ++ u, ?_, ?_⟩, ?_⟩
    · rw [text, List.append_assoc]
    · rw [List.append_assoc]
    · rw [runScan]
      simp only [again _ begins, List.drop_left]
      rfl

theorem nextSwaps (alike : r'.head? = r.head?) {k k' l' : Tokenizer} {w w' : W} {t : Token}
    (ran : stateRuns.run (next exec) (k, w) = (.ok t, (k', w')))
    (swapped : Swapped whole r r' k' l') :
    ∃ l, Swapped whole r r' k l ∧ stateRuns.run (next exec) (l, w) = (.ok t, (l', w')) := by
  rw [runNext] at ran
  cases stack : k.pushed with
  | nil =>
    rw [stack] at ran
    obtain ⟨l, start, again⟩ := scanSwaps exec alike ran swapped
    refine ⟨l, start, ?_⟩
    obtain ⟨u, -, rfl⟩ := start
    rw [stack] at again ⊢
    rw [runNext]
    exact again
  | cons t' rest =>
    rw [stack] at ran
    cases ran
    obtain ⟨u, text, rfl⟩ := swapped
    refine ⟨⟨whole, u ++ r', k.pushed⟩, ⟨u, text, rfl⟩, ?_⟩
    rw [runNext, stack]

theorem sourceSwaps (whole : List Char) (alike : r'.head? = r.head?) :
    SourcesAgree (swapping (W := W) whole r r') (source exec) (source exec)
      (fun _ _ => True) (fun _ _ _ => True) where
  next _ _ _ _ _ _ _ ran swapped := nextSwaps exec alike ran swapped
  back _ t k w _ k' w' l' ran swapped := by
    cases ran
    obtain ⟨u, text, rfl⟩ := swapped
    exact ⟨⟨whole, u ++ r', k.pushed⟩, ⟨u, text, rfl⟩, rfl⟩
  kept _ := trivial
  within _ _ := trivial
  widen _ := trivial
  always _ := trivial

theorem repeatedSwaps {x : Reading (StateM W) Bool}
    (one : (swapping whole r r').Agree (fun _ => True) x x fun _ _ => True) (n : Nat)
    {k l' : Tokenizer} {w : W}
    (returns : ∀ a ∈ (repeated (stateRuns.run x) n (k, w)).1, ∃ b, a = .ok b)
    (swapped : Swapped whole r r' (repeated (stateRuns.run x) n (k, w)).2.1 l') :
    ∃ l, Swapped whole r r' k l ∧ repeated (stateRuns.run x) n (l, w) =
      ((repeated (stateRuns.run x) n (k, w)).1, (l', (repeated (stateRuns.run x) n (k, w)).2.2)) := by
  induction n generalizing k w with
  | zero => exact ⟨l', swapped, rfl⟩
  | succ n ih =>
    rw [repeated] at returns swapped ⊢
    generalize first : stateRuns.run x (k, w) = o at returns swapped ⊢
    obtain ⟨a, k', w'⟩ := o
    obtain ⟨b, rfl⟩ := returns a List.mem_cons_self
    obtain ⟨m, between, more⟩ := ih (fun a mem => returns a (List.mem_cons_of_mem _ mem)) swapped
    obtain ⟨l, start, again⟩ := one k w b k' w' m first between
    refine ⟨l, start, ?_⟩
    rw [repeated, again]
    simp only [more]

theorem unreadDoesNotMatter {p r r' : List Char} (alike : r'.head? = r.head?) (w : W) (n : Nat)
    (returns : ∀ a ∈ (evaluations (logged exec) (p ++ r) ([], w) n).1, ∃ b, a = .ok b)
    (unread : (evaluations (logged exec) (p ++ r) ([], w) n).2.1.unread = r) :
    evaluations (logged exec) (p ++ r') ([], w) n =
      ((evaluations (logged exec) (p ++ r) ([], w) n).1,
        (⟨p ++ r', r', (evaluations (logged exec) (p ++ r) ([], w) n).2.1.pushed⟩,
          (evaluations (logged exec) (p ++ r) ([], w) n).2.2)) := by
  have left := evaluationsLevels (logged exec) (p ++ r)
    (b := (p ++ r).length + (p ++ r').length + 1) (by omega) ([], w) n
  have right := evaluationsLevels (logged exec) (p ++ r')
    (b := (p ++ r).length + (p ++ r').length + 1) (by omega) ([], w) n
  rw [left] at returns unread ⊢
  rw [right]
  have agree := (equalLevelsAgree (sourceSwaps (logged exec) (p ++ r') alike)
    ((p ++ r).length + (p ++ r').length + 1)).condition
  obtain ⟨l, start, same⟩ := repeatedSwaps agree n returns ⟨[], unread, rfl⟩
  obtain ⟨u, text, rfl⟩ := start
  obtain rfl : p = u := List.append_cancel_right text
  exact same

theorem unreadBehindConjunction :
    evaluations (logged unknownCalls) ("$(x) &&".toList ++ " '".toList) ([], ()) 1 =
      ([.ok false], (⟨"$(x) && '".toList, " '".toList, [.and]⟩, ([(⟨"x", none⟩, [])], ()))) := by
  have ran : evaluations (logged unknownCalls) ("$(x) &&".toList ++ " $(".toList) ([], ()) 1 =
      ([.ok false], (⟨"$(x) && $(".toList, " $(".toList, [.and]⟩, ([(⟨"x", none⟩, [])], ()))) := by
    decide +kernel
  have same := @unreadDoesNotMatter _ unknownCalls _ " $(".toList " '".toList rfl () 1
    (by rw [ran]; intro a mem; exact ⟨false, List.mem_singleton.mp mem⟩) (by rw [ran])
  rw [ran] at same
  exact same

end Tokenizer
end Descriptor
