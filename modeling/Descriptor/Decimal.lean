import Descriptor.Text.Blank
/-!
Whole numbers in decimal: writing them, reading a run of digits, and the two readers of the
language. `leading` reads as much of a text as is a number and never fails; `index?` takes the
whole text or nothing. Digits are the ten of ASCII.
-/
namespace Descriptor.Decimal

open Text (trim trimStart)

def isDigit (c : Char) : Bool :=
  '0' ≤ c && c ≤ '9'

theorem digitNotBlank {c : Char} (h : isDigit c) : Text.isBlank c = false := by
  have bounds : '0' ≤ c ∧ c ≤ '9' := by simpa [isDigit] using h
  have points : 48 ≤ c.toNat ∧ c.toNat ≤ 57 := bounds
  have none : ∀ n ≤ 57, 48 ≤ n → Text.CharClass.covers n Text.blank.ranges = false := by decide
  exact none _ points.2 points.1

def digit (c : Char) : Nat :=
  c.toNat - '0'.toNat

def value (ds : List Char) : Nat :=
  ds.foldl (fun n c => 10 * n + digit c) 0

def digits (n : Nat) : List Char :=
  if n < 10 then [Char.ofNat ('0'.toNat + n)]
  else digits (n / 10) ++ [Char.ofNat ('0'.toNat + n % 10)]

def text (n : Int) : List Char :=
  if n < 0 then '-' :: digits n.natAbs else digits n.natAbs

theorem valueAppend (ds : List Char) (c : Char) :
    value (ds ++ [c]) = 10 * value ds + digit c := by
  simp [value]

theorem digitOfNat {k : Nat} (h : k < 10) : digit (Char.ofNat ('0'.toNat + k)) = k := by
  have all : ∀ i < 10, digit (Char.ofNat ('0'.toNat + i)) = i := by decide
  exact all k h

theorem isDigitOfNat {k : Nat} (h : k < 10) : isDigit (Char.ofNat ('0'.toNat + k)) := by
  have all : ∀ i < 10, isDigit (Char.ofNat ('0'.toNat + i)) := by decide
  exact all k h

@[simp] theorem valueDigits (n : Nat) : value (digits n) = n := by
  fun_induction digits n with
  | case1 n h => simpa [value] using digitOfNat h
  | case2 n h ih => rw [valueAppend, ih, digitOfNat (by omega)]; omega

theorem isDigitOfMem {n : Nat} {c : Char} (h : c ∈ digits n) : isDigit c := by
  fun_induction digits n with
  | case1 n small => simp only [List.mem_singleton] at h; exact h ▸ isDigitOfNat small
  | case2 n _ ih =>
    rcases List.mem_append.1 h with h | h
    · exact ih h
    · simp only [List.mem_singleton] at h; exact h ▸ isDigitOfNat (by omega)

theorem digitsNotEmpty (n : Nat) : digits n ≠ [] := by
  rw [digits]; split <;> simp

def least : Int := -9223372036854775808
def greatest : Int := 9223372036854775807

def clamp (n : Int) : Int :=
  max least (min n greatest)

theorem clampSelf {n : Int} (low : least ≤ n) (high : n ≤ greatest) : clamp n = n := by
  simp only [clamp]; omega

def leading (s : List Char) : Int :=
  match trimStart s with
  | '-' :: rest => clamp (-(value (rest.takeWhile isDigit)))
  | '+' :: rest => clamp (value (rest.takeWhile isDigit))
  | rest => clamp (value (rest.takeWhile isDigit))

theorem digitNotSign {c : Char} (digit : isDigit c) : c ≠ '-' ∧ c ≠ '+' := by
  constructor
  · rintro rfl
    exact absurd digit (by decide)
  · rintro rfl
    exact absurd digit (by decide)

theorem leadingOfDigits {ds : List Char} (digit : ∀ c ∈ ds, isDigit c) :
    leading ds = clamp (value ds) := by
  have start : trimStart ds = ds :=
    Text.trimStartSelf fun c mem => digitNotBlank (digit c mem)
  have all : (ds ++ []).takeWhile isDigit = ds ++ [].takeWhile isDigit :=
    List.takeWhile_append_of_pos digit
  simp only [List.takeWhile_nil, List.append_nil] at all
  rw [leading, start]
  split
  · exact absurd rfl (digitNotSign (digit _ List.mem_cons_self)).1
  · exact absurd rfl (digitNotSign (digit _ List.mem_cons_self)).2
  · rw [all]

def below? (bound : Nat) (s : List Char) : Option Nat :=
  if !s.isEmpty && s.all isDigit && value s < bound then some (value s) else none

theorem belowIff {bound n : Nat} {s : List Char} :
    below? bound s = some n ↔ s ≠ [] ∧ (∀ c ∈ s, isDigit c) ∧ value s = n ∧ n < bound := by
  unfold below?
  split
  · rename_i valid
    simp only [Bool.and_eq_true, Bool.not_eq_true', List.isEmpty_eq_false_iff, List.all_eq_true,
      decide_eq_true_eq] at valid
    constructor
    · intro read
      cases Option.some.inj read
      exact ⟨valid.1.1, valid.1.2, rfl, valid.2⟩
    · intro valid
      obtain ⟨_, _, rfl, _⟩ := valid
      rfl
  · rename_i invalid
    constructor
    · intro read
      contradiction
    · intro valid
      obtain ⟨some, digits, rfl, small⟩ := valid
      exact absurd (by simpa [some, small] using digits) invalid

def index? (s : List Char) : Option Nat :=
  match trim s with
  | '+' :: rest => below? UInt64.size rest
  | rest => below? UInt64.size rest

end Descriptor.Decimal
