import Descriptor.Proofs.Acceptance
/-!
How far a scanner looks. A token that was read is read again from the same characters whatever
follows them, as long as what follows begins alike.
-/
namespace Descriptor
open Grammar (Blanks Place)
open Scan (Outcome)
open Text (isBlank)

variable {W : Type} {exec : Exec (StateM W)}

/- A scanner that has `k` characters behind it sees at most one character past what it reads. -/
def Local {α : Type} (k : Nat) (f : List Char → StateM W (Outcome α)) : Prop :=
  ∀ s a n w w', perform (f s) w = ((.ok a, n), w') → ∃ u r, s = u ++ r ∧ u.length + k = n ∧
    ∀ r', r'.head? = r.head? → perform (f (u ++ r')) w = ((.ok a, n), w')

def LocalWithoutCalls {α : Type} (f : List Char → Outcome α) : Prop :=
  ∀ s a n, f s = (.ok a, n) → ∃ u r, s = u ++ r ∧ u.length = n ∧
    ∀ r', r'.head? = r.head? → f (u ++ r') = (.ok a, n)

theorem Local.map {α β : Type} {f : List Char → StateM W (Outcome α)} (near : Local 0 f)
    (g : α → β) :
    Local 1 fun s => do
      let (a, n) ← f s
      return (a.map g, 1 + n) := by
  intro s b n w w' ok
  rw [performBind] at ok
  generalize read : perform (f s) w = o at ok
  obtain ⟨⟨_ | a, m⟩, w₁⟩ := o
  · cases ok
  · obtain ⟨u, r, rfl, rfl, again⟩ := near _ _ _ _ _ read
    cases ok
    refine ⟨u, r, rfl, by omega, fun r' alike => ?_⟩
    rw [performBind, again r' alike]
    rfl

theorem LocalWithoutCalls.behind {α : Type} {f : List Char → Outcome α} (near : LocalWithoutCalls f) :
    Local 1 fun s => (pure ((f s).behind 1) : StateM W (Outcome α)) := by
  intro s a n w w' ok
  rw [performPure] at ok
  generalize read : f s = o at ok
  obtain ⟨result, m⟩ := o
  cases ok
  obtain ⟨u, r, rfl, rfl, again⟩ := near _ _ _ read
  refine ⟨u, r, rfl, by omega, fun r' alike => ?_⟩
  rw [performPure, again r' alike]
  rfl

namespace Grammar

theorem Place.Stops.alike {place : Place} {r r' : List Char} (stops : place.Stops r)
    (alike : r'.head? = r.head?) : place.Stops r' := by
  unfold Place.Stops
  rw [alike]
  exact stops

theorem quotedLocal : Local 0 (Scan.quoted exec) := by
  intro s t n w w' ok
  obtain ⟨u, r, rfl, rfl, inside⟩ := quotedSound ok
  refine ⟨u ++ ['\''], r, by simp, by simp, fun r' _ => ?_⟩
  simpa using quotedComplete inside r'

theorem callLocal : Local 0 (Scan.call exec) := by
  intro s v n w w' ok
  obtain ⟨u, r, rfl, rfl, called⟩ := callSound ok
  obtain ⟨_, same, read⟩ := callComplete called
  cases same
  exact ⟨u, r, rfl, rfl, fun r' _ => read r'⟩

end Grammar

namespace Token

theorem doubleLocal (c : Char) (t : Token) :
    LocalWithoutCalls (double c t) := by
  intro s t' n ok
  unfold double at ok
  split at ok
  · rename_i second
    obtain ⟨r, rfl⟩ := List.head?_eq_some_iff.mp second
    cases ok
    exact ⟨[c], r, rfl, rfl, fun r' _ => by simp [double]⟩
  · cases ok

theorem withEqualsLocal (a b : Token) :
    LocalWithoutCalls (withEquals a b) := by
  intro s t n ok
  unfold withEquals at ok
  split at ok
  · rename_i second
    obtain ⟨r, rfl⟩ := List.head?_eq_some_iff.mp second
    cases ok
    exact ⟨['='], r, rfl, rfl, fun r' _ => by simp [withEquals]⟩
  · rename_i other
    cases ok
    exact ⟨[], s, rfl, rfl, fun r' alike => by simp [withEquals, alike, other]⟩

theorem literalLocal {c : Char} (goes : endsLiteral c = false) :
    Local 1 fun s => do
      let (t, n) ← Scan.text exec endsLiteral (c :: s)
      return (t.map fun t => value (.string (String.ofList t)), n) := by
  intro s t n w w' ok
  rw [performBind] at ok
  generalize read : perform (Scan.text exec endsLiteral (c :: s)) w = o at ok
  obtain ⟨⟨_ | a, m⟩, w₁⟩ := o
  · cases ok
  · obtain ⟨u, r, whole, rfl, pieces, stops⟩ := Grammar.textSound .literal read
    cases ok
    cases u with
    | nil =>
      obtain rfl : c :: s = r := whole
      have stop : endsLiteral c = true := stops c rfl
      rw [goes] at stop
      contradiction
    | cons d u =>
      obtain ⟨rfl, rfl⟩ := List.cons.inj whole
      refine ⟨u, r, rfl, rfl, fun r' alike => ?_⟩
      have again := Grammar.piecesComplete pieces r' (stops.alike alike)
      simp only [Place.ends, List.cons_append] at again
      rw [performBind, again]
      rfl

theorem scanFromLocal (c : Char) : Local 1 (scanFrom exec c) := by
  intro s t n w w' ok
  unfold scanFrom at ok
  split at ok
  · exact (doubleLocal '|' or).behind _ _ _ _ _ ok
  · exact (doubleLocal '&' and).behind _ _ _ _ _ ok
  · exact (doubleLocal '=' (relation .eq)).behind _ _ _ _ _ ok
  · exact (withEqualsLocal (relation .ne) not).behind _ _ _ _ _ ok
  · exact (withEqualsLocal (relation .le) (relation .lt)).behind _ _ _ _ _ ok
  · exact (withEqualsLocal (relation .ge) (relation .gt)).behind _ _ _ _ _ ok
  · cases ok
    exact ⟨[], s, rfl, rfl, fun _ _ => rfl⟩
  · cases ok
    exact ⟨[], s, rfl, rfl, fun _ _ => rfl⟩
  · exact Grammar.quotedLocal.map (fun s => value (.string (String.ofList s))) _ _ _ _ _ ok
  · exact Grammar.callLocal.map value _ _ _ _ _ ok
  · split at ok
    · cases ok
    · rename_i goes
      obtain ⟨u, r, rfl, size, again⟩ := literalLocal (by simpa using goes) _ _ _ _ _ ok
      refine ⟨u, r, rfl, size, fun r' alike => ?_⟩
      have same : scanFrom exec c (u ++ r') = do
          let (t, n) ← Scan.text exec endsLiteral (c :: (u ++ r'))
          return (t.map fun t => value (.string (String.ofList t)), n) := by
        simp only [scanFrom, *]
        rfl
      rw [same]
      exact again r' alike

theorem scanVisible {c : Char} (visible : isBlank c = false) (s : List Char) :
    scan exec (c :: s) = scanFrom exec c s := by
  rw [scan, if_neg (by simp [visible])]

theorem scanBlanks {gap : List Char} (blank : Blanks gap) (s : List Char) (w : W) :
    perform (scan exec (gap ++ s)) w =
      ((perform (scan exec s) w).1.behind gap.length, (perform (scan exec s) w).2) := by
  induction gap with
  | nil => simp [Outcome.behind]
  | cons c gap ih =>
    have first : isBlank c := blank c List.mem_cons_self
    have more := ih fun c mem => blank c (List.mem_cons_of_mem _ mem)
    rw [List.cons_append, scan, if_pos first, performBind, more]
    simp [Outcome.behind]
    omega

theorem scanOf {s : List Char} {result : Except Scan.Stop Token} {n : Nat} {w w' : W}
    (read : perform (scan exec s) w = ((result, n), w')) :
    (result = .ok .finish ∧ n = s.length) ∨
      ∃ gap c r k, s = gap ++ c :: r ∧ Blanks gap ∧ isBlank c = false ∧ n = gap.length + k ∧
        perform (scanFrom exec c r) w = ((result, k), w') := by
  obtain ⟨gap, r, rfl, blank, _, start⟩ := Grammar.gapOf s
  rw [scanBlanks blank] at read
  cases r with
  | nil =>
    rw [scan] at read
    cases read
    exact .inl ⟨rfl, by simp⟩
  | cons c r =>
    have visible : isBlank c = false := start c rfl
    rw [scanVisible visible] at read
    generalize first : perform (scanFrom exec c r) w = o at read
    obtain ⟨⟨_, k⟩, w₁⟩ := o
    cases read
    exact .inr ⟨gap, c, r, k, rfl, blank, visible, rfl, first⟩

theorem scanLocal : Local 0 (scan exec) := by
  intro s t n w w' ok
  obtain ⟨_, rfl⟩ | ⟨gap, c, r, k, rfl, blank, visible, rfl, first⟩ := scanOf ok
  · refine ⟨s, [], by simp, rfl, fun r' alike => ?_⟩
    obtain rfl : r' = [] := by simpa using alike
    rwa [List.append_nil]
  · obtain ⟨u, r, rfl, rfl, again⟩ := scanFromLocal c _ _ _ _ _ first
    refine ⟨gap ++ c :: u, r, by simp, by simp, fun r' alike => ?_⟩
    rw [List.append_assoc, List.cons_append, scanBlanks blank, scanVisible visible, again r' alike]
    rfl

theorem scanTakes {s : List Char} {t : Token} {n : Nat} {w w' : W} (real : t ≠ .finish)
    (ok : perform (scan exec s) w = ((.ok t, n), w')) : (s.drop n).length < s.length := by
  obtain ⟨same, _⟩ | ⟨gap, c, r, k, rfl, _, _, rfl, first⟩ := scanOf ok
  · exact absurd (Except.ok.inj same) real
  · obtain ⟨u, r, rfl, rfl, _⟩ := scanFromLocal c _ _ _ _ _ first
    simp only [List.length_drop, List.length_append, List.length_cons]
    omega

end Token
end Descriptor
