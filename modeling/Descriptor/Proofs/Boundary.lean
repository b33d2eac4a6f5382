import Descriptor.Proofs.Grammar
/-!
The characters and the scanners that do not nest, held against the grammar: which characters end a
text, what an index is, and which blanks belong to what stands before them.
-/
namespace Descriptor.Grammar
open Text (isAlphanumeric isBlank takenUntil stoppedBehind)
open Scan

def blankPoints : List Nat :=
  [0x09, 0x0A, 0x0B, 0x0C, 0x0D, 0x20, 0x85, 0xA0, 0x1680, 0x2000, 0x2001, 0x2002, 0x2003, 0x2004,
   0x2005, 0x2006, 0x2007, 0x2008, 0x2009, 0x200A, 0x2028, 0x2029, 0x202F, 0x205F, 0x3000]

theorem isAlphanumericOfBlank {c : Char} (blank : isBlank c) : isAlphanumeric c = false := by
  have listed : c.toNat ∈ blankPoints := by
    simp [isBlank, Text.CharClass.has, Text.blank, Text.CharClass.covers, blankPoints] at blank ⊢
    omega
  have none : ∀ n ∈ blankPoints, Text.CharClass.covers n Text.alphanumeric.ranges = false := by
    decide +kernel
  exact none _ listed

def Place.ends : Place → Char → Bool
  | name => endsName
  | option => endsOption
  | value => endsValue
  | quoted => endsQuoted
  | literal => Token.endsLiteral
  | template => fun _ => false

theorem isSpecialIff {c : Char} : isSpecial c ↔ c ∈ ['\'', '\\', '$'] := by
  simp [isSpecial, or_left_comm, or_assoc]

theorem notPlainOfSpecial {c : Char} (special : isSpecial c) :
    isAlphanumeric c = false ∧ c ≠ '_' ∧ Token.isLiteral c = false := by
  obtain rfl | rfl | rfl : c = '\'' ∨ c = '\\' ∨ c = '$' := by simpa using isSpecialIff.mp special
  · decide +kernel
  · decide +kernel
  · decide +kernel

theorem plainIff (place : Place) (c : Char) :
    place.Plain c ↔ place.ends c = false ∧ isSpecial c = false := by
  cases special : isSpecial c with
  | true =>
    have none := notPlainOfSpecial special
    have listed := isSpecialIff.mp special
    cases place <;> simp_all [Place.Plain]
  | false =>
    have listed : c ∉ ['\'', '\\', '$'] := fun mem => by simp [isSpecialIff.mpr mem] at special
    cases letter : isAlphanumeric c <;> cases place <;>
      simp_all [Place.Plain, Place.ends, endsName, endsOption, endsValue, endsQuoted, Token.endsLiteral]

theorem endsQuote {place : Place} : place.ends '\'' = false ↔ place ≠ .quoted := by
  cases place <;> decide +kernel

theorem endsNameOfBlank {c : Char} (blank : isBlank c) : endsName c := by
  have letters := isAlphanumericOfBlank blank
  have others : c ∉ ['_', '\\', '\'', '$'] := by
    intro mem
    simp only [List.mem_cons, List.not_mem_nil, or_false] at mem
    obtain rfl | rfl | rfl | rfl := mem <;> exact absurd blank (by decide +kernel)
  simp only [List.mem_cons, List.not_mem_nil, or_false, not_or] at others
  simp [endsName, isSpecial, letters, others]

def Place.Stops (place : Place) (r : List Char) : Prop := ∀ c ∈ r.head?, place.ends c = true

theorem Blanks.nil : Blanks [] := fun _ mem => absurd mem List.not_mem_nil

theorem Blanks.cons {c : Char} {gap : List Char} (blanks : Blanks gap) (blank : isBlank c) :
    Blanks (c :: gap) := by
  simpa [Blanks, blank] using blanks

theorem Blanks.append {gap more : List Char} (left : Blanks gap) (right : Blanks more) :
    Blanks (gap ++ more) := fun c mem => (List.mem_append.mp mem).elim (left c) (right c)

theorem gapOf (s : List Char) : ∃ gap r, s = gap ++ r ∧ Blanks gap ∧ blanks s = gap.length ∧
    ∀ c ∈ r.head?, isBlank c = false := by
  refine ⟨s.takeWhile isBlank, s.dropWhile isBlank, List.takeWhile_append_dropWhile.symm, ?_, rfl, ?_⟩
  · exact List.all_eq_true.mp List.all_takeWhile
  · exact stoppedBehind isBlank s

theorem blanksOf {gap r : List Char} (blank : Blanks gap) (stop : ∀ c ∈ r.head?, isBlank c = false) :
    blanks (gap ++ r) = gap.length := by
  rw [blanks, (takenUntil blank stop).1]

theorem indexIff {s : List Char} {n : Nat} :
    ']' ∉ s ∧ Decimal.index? s = some n ↔ Index s n := by
  unfold Index Decimal.index?
  refine and_congr_right fun _ => ?_
  constructor
  · intro read
    split at read
    · rename_i digits trimmed
      exact ⟨['+'], digits, trimmed, .inr rfl, Decimal.belowIff.mp read⟩
    · exact ⟨[], _, rfl, .inl rfl, Decimal.belowIff.mp read⟩
  · intro written
    obtain ⟨sign, digits, trimmed, unsigned | plus, valid⟩ := written
    · subst unsigned
      rw [trimmed, List.nil_append]
      split
      · have digit : Decimal.isDigit '+' := valid.2.1 _ List.mem_cons_self
        simp [Decimal.isDigit] at digit
      · exact Decimal.belowIff.mpr valid
    · subst plus
      rw [trimmed]
      exact Decimal.belowIff.mpr valid

theorem takeWhileInside {s : List Char} (inside : ']' ∉ s) (r : List Char) :
    (s ++ r).takeWhile (· != ']') = s ++ r.takeWhile (· != ']') := by
  apply List.takeWhile_append_of_pos
  intro c mem
  simpa using fun same : c = ']' => inside (same ▸ mem)

theorem indexClosed {s : List Char} (inside : ']' ∉ s) (r : List Char) :
    index ('[' :: (s ++ ']' :: r)) =
      match Decimal.index? s with
      | some n => (.ok (some n), s.length + 2)
      | none => .fault (.invalidIndex (String.ofList s)) ('[' :: (s ++ ']' :: r)) (s.length + 2) := by
  have taken : (s ++ ']' :: r).takeWhile (· != ']') = s := by simp [takeWhileInside inside]
  simp only [index, taken]
  cases Decimal.index? s <;> simp

theorem indexSound {s : List Char} {i : Option Nat} {n : Nat} (read : index s = (.ok i, n)) :
    ∃ u r, s = u ++ r ∧ u.length = n ∧ Bracket u i := by
  by_cases opens : ∃ rest, s = '[' :: rest
  · obtain ⟨rest, rfl⟩ := opens
    by_cases closes : ']' ∈ rest
    · obtain ⟨inside, r, rfl, absent⟩ := List.eq_append_cons_of_mem closes
      rw [indexClosed absent] at read
      cases value : Decimal.index? inside with
      | none => simp [value, Outcome.fault] at read
      | some m =>
        simp only [value, Prod.mk.injEq, Except.ok.injEq] at read
        obtain ⟨rfl, rfl⟩ := read
        exact ⟨'[' :: inside ++ [']'], r, by simp, by simp, .some (indexIff.mp ⟨absent, value⟩)⟩
    · have all : rest.takeWhile (· != ']') = rest := by simpa using takeWhileInside closes []
      simp [index, all, Outcome.fault] at read
  · have plain : index s = (.ok none, 0) := by
      unfold index
      split
      · rename_i rest
        exact absurd ⟨rest, rfl⟩ opens
      · rfl
    cases plain.symm.trans read
    exact ⟨[], s, rfl, rfl, .none⟩

theorem indexComplete {u : List Char} {i : Option Nat} (bracket : Bracket u i) {r : List Char}
    (unopened : r.head? ≠ some '[') : index (u ++ r) = (.ok i, u.length) := by
  cases bracket with
  | none =>
    cases r with
    | nil => rfl
    | cons c rest =>
      simp only [List.head?_cons, ne_eq, Option.some.injEq] at unopened
      simp [index, unopened]
  | @some s n index =>
    obtain ⟨absent, value⟩ := indexIff.mpr index
    have closed := indexClosed absent r
    simpa [value] using closed

theorem identifierOfSound {u r name : List Char} {id : Identifier} {n : Nat}
    (ok : identifierOf (u ++ r) name u.length = (.ok id, n)) :
    name ≠ [] ∧ ∃ gap bracket index r', r = gap ++ bracket ++ r' ∧ Blanks gap ∧
      Bracket bracket index ∧ id = ⟨String.ofList name, index⟩ ∧
      n = u.length + gap.length + bracket.length := by
  obtain ⟨gap, s, rfl, blank, size, _⟩ := gapOf r
  simp only [identifierOf, List.drop_left, size, ← List.drop_drop, Outcome.behind] at ok
  generalize read : index s = o at ok
  obtain ⟨_ | i, m⟩ := o
  · cases ok
  · obtain ⟨bracket, r', rfl, rfl, written⟩ := indexSound read
    simp only at ok
    split at ok
    · cases ok
    · rename_i given
      cases ok
      exact ⟨by simpa using given, gap, bracket, i, r', by simp, blank, written, rfl, rfl⟩

theorem identifierOfComplete {u gap bracket r name : List Char} {i : Option Nat} {c : Char}
    (given : name ≠ []) (blank : Blanks gap) (written : Bracket bracket i) (unopened : c ≠ '[')
    (stop : isBlank c = false ∨ bracket ≠ []) :
    identifierOf (u ++ (gap ++ bracket ++ c :: r)) name u.length =
      (.ok ⟨String.ofList name, i⟩, (u ++ gap ++ bracket).length) := by
  have start : ∀ b ∈ (bracket ++ c :: r).head?, isBlank b = false := by
    cases written with
    | none => simpa using stop
    | some _ => simp; decide
  have size : blanks (gap ++ (bracket ++ c :: r)) = gap.length := blanksOf blank start
  have read := indexComplete written (r := c :: r) (by simpa using unopened)
  simp [identifierOf, ← List.drop_drop, size, read, Outcome.behind, given, Nat.add_assoc]

end Descriptor.Grammar
