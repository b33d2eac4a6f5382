import Descriptor.Proofs.Observation
/-!
What stops a scanner, and where. A fault stands in the text that is scanned: what is reported as
unread is the end of that text from the faulty place on, and there the text is as the fault says.
Whatever else stops a scanner is the failure of a call.
-/
namespace Descriptor
open Scan
open Text (isBlank)

variable {W : Type} {exec : Exec (StateM W)}

def Defect.Holds : Defect → List Char → List Char → Prop
  | .incompleteOperator c, _, rest => ∃ r, rest = c :: r ∧ r.head? ≠ some c
  | .invalidCharacter c, _, rest => rest.head? = some c
  | .unterminatedQuote, _, rest => rest.head? = some '\''
  | .invalidEscape c, _, rest => (∃ r, rest = '\\' :: c :: r) ∧ ∀ meant, (c, meant) ∉ escapes
  | .danglingEscape, _, rest => rest = ['\\']
  | .missingOpenParenthesis, before, rest => before.getLast? = some '$' ∧ rest.head? ≠ some '('
  | .missingCloseParenthesis, _, rest => rest = []
  | .missingIdentifier, before, rest =>
    (∃ p gap, before = p ++ '$' :: '(' :: gap ∧ Grammar.Blanks gap) ∧
      ∀ c ∈ rest.head?, isBlank c = false
  | .missingCloseBracket, _, rest => ∃ r, rest = '[' :: r ∧ ']' ∉ r
  | .invalidIndex index, _, rest =>
    (∃ r, rest = '[' :: index.toList ++ ']' :: r) ∧ ']' ∉ index.toList ∧
      ∀ n, ¬ Grammar.Index index.toList n

namespace Scan

def Fault.Stands (f : Fault) (whole : List Char) : Prop :=
  ∃ before, whole = before ++ f.unread ∧ f.defect.Holds before f.unread

def Stop.From (exec : Exec (StateM W)) (whole : List Char) : Stop → Prop
  | .fault f => f.Stands whole
  | .failure e => ∃ id ps w w', perform (exec id ps) w = (.error e, w')

theorem escapeStopped {rest : List Char} {stop : Stop} {n : Nat}
    (stopped : escape rest = (.error stop, n)) (before : List Char) :
    stop.From exec (before ++ '\\' :: rest) := by
  cases rest with
  | nil =>
    cases stopped
    exact ⟨before, rfl, rfl⟩
  | cons c r =>
    simp only [escape] at stopped
    cases found : escapes.lookup c with
    | some meant => simp [found] at stopped
    | none =>
      simp only [found] at stopped
      cases stopped
      refine ⟨before, rfl, ⟨r, rfl⟩, fun meant listed => ?_⟩
      have absent := List.lookup_eq_none_iff.mp found (c, meant) listed
      simp at absent

theorem indexStopped {s : List Char} {stop : Stop} {n : Nat}
    (stopped : index s = (.error stop, n)) (before : List Char) :
    stop.From exec (before ++ s) := by
  by_cases opens : s.head? = some '['
  · obtain ⟨rest, rfl⟩ := List.head?_eq_some_iff.mp opens
    by_cases closes : ']' ∈ rest
    · obtain ⟨inside, r, rfl, absent⟩ := List.eq_append_cons_of_mem closes
      rw [Grammar.indexClosed absent] at stopped
      cases value : Decimal.index? inside with
      | some m => simp [value] at stopped
      | none =>
        simp only [value] at stopped
        cases stopped
        refine ⟨before, rfl, ?_⟩
        simp only [Defect.Holds, String.toList_ofList]
        refine ⟨⟨r, rfl⟩, absent, fun m written => ?_⟩
        have read := (Grammar.indexIff.mpr written).2
        rw [value] at read
        cases read
    · have all : rest.takeWhile (· != ']') = rest := by
        simpa using Grammar.takeWhileInside closes []
      simp only [index, all] at stopped
      cases stopped
      exact ⟨before, rfl, rest, rfl, closes⟩
  · unfold index at stopped
    split at stopped
    · exact absurd rfl opens
    · cases stopped

theorem identifierOfStopped {s name : List Char} {read n : Nat} {stop : Stop}
    (stopped : identifierOf s name read = (.error stop, n)) {p gap : List Char}
    (blank : Grammar.Blanks gap) (start : ∀ c ∈ s.head?, isBlank c = false) :
    stop.From exec (p ++ '$' :: '(' :: gap ++ s) := by
  simp only [identifierOf, Outcome.behind] at stopped
  generalize bracket : index (s.drop (read + blanks (s.drop read))) = o at stopped
  obtain ⟨stop' | i, k⟩ := o
  · cases stopped
    have stands := @indexStopped _ exec _ _ _ bracket
      (p ++ '$' :: '(' :: gap ++ s.take (read + blanks (s.drop read)))
    simpa using stands
  · simp only at stopped
    split at stopped
    · cases stopped
      exact ⟨p ++ '$' :: '(' :: gap, rfl, ⟨p, gap, rfl, blank⟩, start⟩
    · cases stopped

mutual
theorem textStopped {ends : Char → Bool} {s : List Char} {stop : Stop} {n : Nat} {w w' : W}
    (stopped : perform (text exec ends s) w = ((.error stop, n), w')) (before : List Char) :
    stop.From exec (before ++ s) := by
  match s with
  | [] =>
    rw [text] at stopped
    cases stopped
  | c :: rest =>
    rw [text] at stopped
    split at stopped
    · cases stopped
    · rw [performBind] at stopped
      generalize first : perform (unit exec c rest) w = o at stopped
      obtain ⟨⟨stop' | t, k⟩, w₁⟩ := o
      · cases stopped
        exact unitStopped first before
      · simp only [performBind] at stopped
        generalize more : perform (text exec ends (rest.drop k)) w₁ = o at stopped
        obtain ⟨⟨stop' | u, j⟩, w₂⟩ := o
        · cases stopped
          have stands := textStopped more (before ++ c :: rest.take k)
          simpa using stands
        · cases stopped
termination_by 3 * s.length

theorem unitStopped {c : Char} {rest : List Char} {stop : Stop} {n : Nat} {w w' : W}
    (stopped : perform (unit exec c rest) w = ((.error stop, n), w')) (before : List Char) :
    stop.From exec (before ++ c :: rest) := by
  rw [unit] at stopped
  split at stopped
  · rename_i backslash
    subst backslash
    rw [performPure] at stopped
    obtain ⟨read, -⟩ := Prod.mk.inj stopped
    exact escapeStopped read before
  · split at stopped
    · rename_i quote
      subst quote
      exact quotedStopped stopped before
    · split at stopped
      · rename_i dollar
        subst dollar
        rw [performBind] at stopped
        generalize called : perform (call exec rest) w = o at stopped
        obtain ⟨⟨stop' | v, k⟩, w₁⟩ := o
        · cases stopped
          exact callStopped called before
        · cases stopped
      · cases stopped
termination_by 3 * rest.length + 2

theorem quotedStopped {rest : List Char} {stop : Stop} {n : Nat} {w w' : W}
    (stopped : perform (quoted exec rest) w = ((.error stop, n), w')) (before : List Char) :
    stop.From exec (before ++ '\'' :: rest) := by
  rw [quoted, performBind] at stopped
  generalize inside : perform (text exec endsQuoted rest) w = o at stopped
  obtain ⟨⟨stop' | t, k⟩, w₁⟩ := o
  · cases stopped
    have stands := textStopped inside (before ++ ['\''])
    simpa using stands
  · simp only at stopped
    split at stopped
    · cases stopped
      exact ⟨before, rfl, rfl⟩
    · cases stopped
termination_by 3 * rest.length + 1

theorem callStopped {rest : List Char} {stop : Stop} {n : Nat} {w w' : W}
    (stopped : perform (call exec rest) w = ((.error stop, n), w')) (before : List Char) :
    stop.From exec (before ++ '$' :: rest) := by
  by_cases opens : rest.head? = some '('
  · obtain ⟨body, whole⟩ := List.head?_eq_some_iff.mp opens
    obtain ⟨gap, s, rfl, blank, size, start⟩ := Grammar.gapOf body
    have shorter : s.length < rest.length := by
      rw [whole, List.length_cons, List.length_append]
      omega
    rw [whole, call] at stopped
    simp only [size, ← List.drop_drop, List.drop_left, performBind] at stopped
    generalize named : perform (identifier exec s) w = o at stopped
    obtain ⟨⟨stop' | id, k⟩, w₁⟩ := o
    · cases stopped
      have stands := identifierStopped named (p := before) blank start
      simpa [whole] using stands
    · simp only [performBind] at stopped
      generalize listed : perform (parameters exec (s.drop k)) w₁ = o at stopped
      obtain ⟨⟨stop' | ps, j⟩, w₂⟩ := o
      · cases stopped
        have stands := parametersStopped listed (before ++ '$' :: '(' :: gap ++ s.take k)
        simpa [whole] using stands
      · simp only [performBind] at stopped
        generalize answer : perform (exec id ps) w₂ = o at stopped
        obtain ⟨e | v, w₃⟩ := o
        · cases stopped
          exact ⟨id, ps, w₂, _, answer⟩
        · cases stopped
  · rw [callUnopened exec opens] at stopped
    cases stopped
    exact ⟨before ++ ['$'], by simp, by simp, opens⟩
termination_by 3 * rest.length

theorem identifierStopped {s : List Char} {stop : Stop} {n : Nat} {w w' : W}
    (stopped : perform (identifier exec s) w = ((.error stop, n), w')) {p gap : List Char}
    (blank : Grammar.Blanks gap) (start : ∀ c ∈ s.head?, isBlank c = false) :
    stop.From exec (p ++ '$' :: '(' :: gap ++ s) := by
  rw [identifier, performBind] at stopped
  generalize named : perform (text exec endsName s) w = o at stopped
  obtain ⟨⟨stop' | name, k⟩, w₁⟩ := o
  · cases stopped
    exact textStopped named _
  · rw [performPure] at stopped
    obtain ⟨read, -⟩ := Prod.mk.inj stopped
    exact identifierOfStopped read blank start
termination_by 3 * s.length + 1

theorem parametersStopped {s : List Char} {stop : Stop} {n : Nat} {w w' : W}
    (stopped : perform (parameters exec s) w = ((.error stop, n), w')) (before : List Char) :
    stop.From exec (before ++ s) := by
  match s with
  | [] =>
    rw [parameters] at stopped
    cases stopped
    exact ⟨before, rfl, rfl⟩
  | c :: rest =>
    rw [parameters] at stopped
    split at stopped
    · rw [performBind] at stopped
      generalize more : perform (parameters exec rest) w = o at stopped
      obtain ⟨⟨result, k⟩, w₁⟩ := o
      cases stopped
      have stands := parametersStopped more (before ++ [c])
      simpa using stands
    · split at stopped
      · cases stopped
      · split at stopped
        · rename_i dash
          subst dash
          rw [performBind] at stopped
          generalize one : perform (parameter exec rest) w = o at stopped
          obtain ⟨⟨stop' | p, k⟩, w₁⟩ := o
          · cases stopped
            have stands := parameterStopped one (before ++ ['-'])
            simpa using stands
          · simp only [performBind] at stopped
            generalize more : perform (parameters exec (rest.drop k)) w₁ = o at stopped
            obtain ⟨⟨stop' | ps, j⟩, w₂⟩ := o
            · cases stopped
              have stands := parametersStopped more (before ++ '-' :: rest.take k)
              simpa using stands
            · cases stopped
        · cases stopped
          exact ⟨before, rfl, rfl⟩
termination_by 3 * s.length

theorem parameterStopped {s : List Char} {stop : Stop} {n : Nat} {w w' : W}
    (stopped : perform (parameter exec s) w = ((.error stop, n), w')) (before : List Char) :
    stop.From exec (before ++ s) := by
  rw [parameter, performBind] at stopped
  generalize named : perform (text exec endsOption s) w = o at stopped
  obtain ⟨⟨stop' | option, k⟩, w₁⟩ := o
  · cases stopped
    exact textStopped named before
  · simp only at stopped
    split at stopped
    · rw [performBind] at stopped
      generalize valued : perform (text exec endsValue (s.drop (k + 1))) w₁ = o at stopped
      obtain ⟨⟨stop' | value, j⟩, w₂⟩ := o
      · cases stopped
        have stands := textStopped valued (before ++ s.take (k + 1))
        simpa using stands
      · cases stopped
    · cases stopped
termination_by 3 * s.length + 1
end

end Scan

namespace Token

theorem doubleStopped {c : Char} {t : Token} {rest : List Char} {stop : Stop} {n : Nat} {w w' : W}
    (stopped : perform (pure ((double c t rest).behind 1) : StateM W (Outcome Token)) w =
      ((.error stop, n), w')) (before : List Char) : stop.From exec (before ++ c :: rest) := by
  unfold double at stopped
  split at stopped
  · cases stopped
  · rename_i single
    cases stopped
    exact ⟨before, rfl, rest, rfl, single⟩

theorem withEqualsOk {a b : Token} {rest : List Char} {stop : Stop} {n : Nat} {w w' : W}
    (stopped : perform (pure ((withEquals a b rest).behind 1) : StateM W (Outcome Token)) w =
      ((.error stop, n), w')) : False := by
  unfold withEquals at stopped
  split at stopped
  · cases stopped
  · cases stopped

theorem scanFromStopped {c : Char} {s : List Char} {stop : Stop} {n : Nat} {w w' : W}
    (stopped : perform (scanFrom exec c s) w = ((.error stop, n), w')) (before : List Char) :
    stop.From exec (before ++ c :: s) := by
  unfold scanFrom at stopped
  split at stopped
  · exact doubleStopped stopped before
  · exact doubleStopped stopped before
  · exact doubleStopped stopped before
  · exact (withEqualsOk stopped).elim
  · exact (withEqualsOk stopped).elim
  · exact (withEqualsOk stopped).elim
  · cases stopped
  · cases stopped
  · rw [performBind] at stopped
    generalize inside : perform (quoted exec s) w = o at stopped
    obtain ⟨⟨stop' | t, k⟩, w₁⟩ := o
    · cases stopped
      exact quotedStopped inside before
    · cases stopped
  · rw [performBind] at stopped
    generalize called : perform (call exec s) w = o at stopped
    obtain ⟨⟨stop' | v, k⟩, w₁⟩ := o
    · cases stopped
      exact callStopped called before
    · cases stopped
  · split at stopped
    · cases stopped
      exact ⟨before, rfl, rfl⟩
    · rw [performBind] at stopped
      generalize read : perform (Scan.text exec endsLiteral (c :: s)) w = o at stopped
      obtain ⟨⟨stop' | t, k⟩, w₁⟩ := o
      · cases stopped
        exact textStopped read before
      · cases stopped

theorem scanStopped {s : List Char} {stop : Stop} {n : Nat} {w w' : W}
    (stopped : perform (scan exec s) w = ((.error stop, n), w')) (before : List Char) :
    stop.From exec (before ++ s) := by
  obtain ⟨same, _⟩ | ⟨gap, c, s, k, rfl, _, _, rfl, first⟩ := scanOf stopped
  · cases same
  · have stands := scanFromStopped first (before ++ gap)
    rwa [List.append_assoc] at stands

end Token
end Descriptor
