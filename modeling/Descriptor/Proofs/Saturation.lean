import Mathlib.Data.List.Induction
import Mathlib.Data.Nat.Digits.Defs
import Descriptor.Decimal
import Descriptor.Proofs.Cuts
/-!
Integers at the beginning of a text. The digits there may be of any number, and one beyond the 64 bits of
an integer is read as the last one within them. A machine comes to the same: it cuts the sign and the
digits out by their bytes, adds digit after digit as long as the number fits, and tells from how that
failed at which end it stands.
-/
namespace Descriptor.Decimal
open Text (isBlank trimStart takenUntil stoppedBehind)

inductive Sign
  | none | plus | minus
  deriving DecidableEq, Repr

def Sign.written : Sign → List Char
  | none => []
  | plus => ['+']
  | minus => ['-']

def Sign.apply : Sign → Nat → Int
  | minus, n => -n
  | _, n => n

structure Parts where
  blanks : List Char
  sign : Sign
  digits : List Char
  rest : List Char
  deriving DecidableEq, Repr

/- All blanks there are, a sign if there is one, all digits there are, and anything. -/
structure Parts.Of (p : Parts) (s : List Char) : Prop where
  whole : s = p.blanks ++ (p.sign.written ++ (p.digits ++ p.rest))
  blank : ∀ c ∈ p.blanks, isBlank c
  begun : ∀ c ∈ (p.sign.written ++ (p.digits ++ p.rest)).head?, isBlank c = false
  signed : p.sign = .none → ∀ c ∈ (p.digits ++ p.rest).head?, c ≠ '-' ∧ c ≠ '+'
  digit : ∀ c ∈ p.digits, isDigit c
  ended : ∀ c ∈ p.rest.head?, isDigit c = false

def signOf : List Char → Sign × List Char
  | '-' :: s => (.minus, s)
  | '+' :: s => (.plus, s)
  | s => (.none, s)

def partsOf (s : List Char) : Parts :=
  let (sign, tail) := signOf (trimStart s)
  ⟨s.takeWhile isBlank, sign, tail.takeWhile isDigit, tail.dropWhile isDigit⟩

theorem signOfWritten {sign : Sign} {s : List Char}
    (bare : sign = .none → ∀ c ∈ s.head?, c ≠ '-' ∧ c ≠ '+') :
    signOf (sign.written ++ s) = (sign, s) := by
  cases sign with
  | none =>
    cases s with
    | nil => rfl
    | cons c s =>
      obtain ⟨minus, plus⟩ := bare rfl c rfl
      simp [Sign.written, signOf, minus, plus]
  | plus => rfl
  | minus => rfl

theorem signOfSpec (s : List Char) : s = (signOf s).1.written ++ (signOf s).2 ∧
    ((signOf s).1 = .none → ∀ c ∈ (signOf s).2.head?, c ≠ '-' ∧ c ≠ '+') := by
  fun_cases signOf s with
  | case1 s => exact ⟨rfl, by simp⟩
  | case2 s => exact ⟨rfl, by simp⟩
  | case3 s minus plus =>
    refine ⟨rfl, ?_⟩
    intro _ c first
    obtain ⟨s, rfl⟩ := List.head?_eq_some_iff.mp first
    exact ⟨fun same => minus s (same ▸ rfl), fun same => plus s (same ▸ rfl)⟩

theorem partsOfSpec (s : List Char) : (partsOf s).Of s := by
  obtain ⟨signed, bare⟩ := signOfSpec (trimStart s)
  have tail : (signOf (trimStart s)).2 = (partsOf s).digits ++ (partsOf s).rest :=
    List.takeWhile_append_dropWhile.symm
  have behind : trimStart s = (partsOf s).sign.written ++ ((partsOf s).digits ++ (partsOf s).rest) := by
    rw [← tail]
    exact signed
  constructor
  case whole =>
    rw [← behind]
    exact List.takeWhile_append_dropWhile.symm
  case blank => exact List.all_eq_true.mp List.all_takeWhile
  case begun =>
    rw [← behind]
    exact stoppedBehind isBlank s
  case signed =>
    rw [← tail]
    exact bare
  case digit => exact List.all_eq_true.mp List.all_takeWhile
  case ended => exact stoppedBehind isDigit _

theorem trimmedOfParts {p : Parts} {s : List Char} (parts : p.Of s) :
    trimStart s = p.sign.written ++ (p.digits ++ p.rest) := by
  obtain ⟨-, front⟩ := takenUntil parts.blank parts.begun
  rw [← parts.whole] at front
  exact front

theorem partsUnique {p : Parts} {s : List Char} (parts : p.Of s) : p = partsOf s := by
  obtain ⟨blanks, -⟩ := takenUntil parts.blank parts.begun
  obtain ⟨digits, rest⟩ := takenUntil parts.digit parts.ended
  rw [← parts.whole] at blanks
  simp only [partsOf, trimmedOfParts parts, signOfWritten parts.signed, blanks, digits, rest]

theorem leadingSigned (s : List Char) : leading s =
    clamp ((signOf (trimStart s)).1.apply (value ((signOf (trimStart s)).2.takeWhile isDigit))) := by
  rw [leading]
  generalize trimStart s = t
  fun_cases signOf t with
  | case1 s => rfl
  | case2 s => rfl
  | case3 t minus plus =>
    split
    · exact (minus _ rfl).elim
    · exact (plus _ rfl).elim
    · rfl

theorem leadingOfParts {p : Parts} {s : List Char} (parts : p.Of s) :
    leading s = clamp (p.sign.apply (value p.digits)) := by
  rw [partsUnique parts, leadingSigned]
  rfl

theorem valueOfDigits (ds : List Char) : value ds = Nat.ofDigits 10 (ds.map digit).reverse := by
  induction ds using List.reverseRecOn with
  | nil => rfl
  | append_singleton ds c ih =>
    rw [valueAppend, ih, List.map_append, List.reverse_append]
    exact Nat.add_comm _ _

theorem textOfSign (n : Int) :
    text n = (if n < 0 then Sign.minus else .none).written ++ digits n.natAbs := by
  unfold text
  split
  · rfl
  · rfl

theorem partsWritten (n : Int) {blanks rest : List Char} (blank : ∀ c ∈ blanks, isBlank c)
    (ended : ∀ c ∈ rest.head?, isDigit c = false) :
    Parts.Of ⟨blanks, if n < 0 then .minus else .none, digits n.natAbs, rest⟩
      (blanks ++ text n ++ rest) := by
  obtain ⟨c, more, first⟩ := List.exists_cons_of_ne_nil (digitsNotEmpty n.natAbs)
  have digit : isDigit c := isDigitOfMem (n := n.natAbs) (by simp [first])
  constructor
  case whole => rw [textOfSign, List.append_assoc, List.append_assoc]
  case blank => exact blank
  case begun =>
    split
    · simp [Sign.written]
      decide
    · simpa [Sign.written, first] using digitNotBlank digit
  case signed => simpa [first] using fun _ => digitNotSign digit
  case digit => exact fun c => isDigitOfMem
  case ended => exact ended

theorem leadingWritten {n : Int} (low : least ≤ n) (high : n ≤ greatest) {blanks rest : List Char}
    (blank : ∀ c ∈ blanks, isBlank c) (ended : ∀ c ∈ rest.head?, isDigit c = false) :
    leading (blanks ++ text n ++ rest) = n := by
  have number : (if n < 0 then Sign.minus else .none).apply n.natAbs = n := by
    split
    · simp only [Sign.apply]
      omega
    · simp only [Sign.apply]
      omega
  rw [leadingOfParts (partsWritten n blank ended), valueDigits, number, clampSelf low high]

inductive Refusal
  | empty | noDigit | tooLarge | tooSmall
  deriving DecidableEq, Repr

def Fits (n : Int) : Prop := least ≤ n ∧ n ≤ greatest
instance (n) : Decidable (Fits n) := by unfold Fits; infer_instance

def checked (sign : Sign) (n : Int) : Except Refusal Int :=
  if Fits n then .ok n else .error (if sign = .minus then .tooSmall else .tooLarge)

def accumulate (sign : Sign) : Int → List Char → Except Refusal Int
  | n, [] => .ok n
  | n, c :: ds => do
    if isDigit c then
      let scaled ← checked sign (10 * n)
      let next ← checked sign (scaled + sign.apply (digit c))
      accumulate sign next ds
    else .error .noDigit

def integer (s : List Char) : Except Refusal Int :=
  match signOf s with
  | (.none, []) => .error .empty
  | (_, []) => .error .noDigit
  | (sign, ds) => accumulate sign 0 ds

def saturate : Except Refusal Int → Int
  | .ok n => n
  | .error .tooLarge => greatest
  | .error .tooSmall => least
  | .error _ => 0

def otherBytes? : List Char → Option Nat
  | [] => none
  | c :: s => if isDigit c then (otherBytes? s).map (c.utf8Size + ·) else some 0

def numberCut? (s : List Char) : Option (List Char) := do
  let size := if s.head? = some '-' ∨ s.head? = some '+' then 1 else 0
  let tail ← behindBytes? size s
  between? 0 (((otherBytes? tail).map (size + ·)).getD (bytes s)) s

def leadingCut? (s : List Char) : Option Int :=
  (numberCut? (trimStart s)).map fun number => saturate (integer number)

theorem applyMore (sign : Sign) (n d : Nat) :
    sign.apply (10 * n + d) = 10 * sign.apply n + sign.apply d := by
  cases sign <;> simp only [Sign.apply] <;> omega

theorem beyondFits {sign : Sign} {m n : Nat} (more : m ≤ n) (beyond : ¬ Fits (sign.apply m)) :
    ¬ Fits (sign.apply n) := by
  cases sign <;> simp only [Fits, Sign.apply, least, greatest] at beyond ⊢ <;> omega

theorem foldLeast (n : Nat) (ds : List Char) : n ≤ ds.foldl (fun n c => 10 * n + digit c) n := by
  induction ds generalizing n with
  | nil => exact Nat.le_refl n
  | cons c ds ih =>
    have more := ih (10 * n + digit c)
    rw [List.foldl_cons]
    omega

/- As numbers only become larger, one that does not fit on the way does not fit in the end. -/
theorem accumulateChecked {sign : Sign} {n : Nat} (fits : Fits (sign.apply n)) {ds : List Char}
    (digits : ∀ c ∈ ds, isDigit c) : accumulate sign (sign.apply n) ds =
      checked sign (sign.apply (ds.foldl (fun n c => 10 * n + digit c) n)) := by
  induction ds generalizing n with
  | nil => rw [accumulate, List.foldl_nil, checked, if_pos fits]
  | cons c ds ih =>
    have scaled : 10 * sign.apply n = sign.apply (10 * n) := by
      cases sign <;> simp only [Sign.apply] <;> omega
    have last := foldLeast (10 * n + digit c) ds
    rw [accumulate, if_pos (digits c List.mem_cons_self), scaled, List.foldl_cons]
    by_cases first : Fits (sign.apply (10 * n))
    · have sum : sign.apply (10 * n) + sign.apply (digit c) = sign.apply (10 * n + digit c) := by
        rw [applyMore, scaled]
      rw [checked, if_pos first]
      change (checked sign (sign.apply (10 * n) + sign.apply (digit c))).bind _ = _
      rw [sum]
      by_cases next : Fits (sign.apply (10 * n + digit c))
      · rw [checked, if_pos next]
        exact ih next fun d mem => digits d (List.mem_cons_of_mem c mem)
      · rw [checked, if_neg next, checked, if_neg (beyondFits last next)]
        rfl
    · have beyond := beyondFits (Nat.le_trans (Nat.le_add_right _ _) last) first
      rw [checked, if_neg first, checked, if_neg beyond]
      rfl

theorem saturateChecked (sign : Sign) (n : Nat) :
    saturate (checked sign (sign.apply n)) = clamp (sign.apply n) := by
  unfold checked
  split
  · rename_i fits
    exact (clampSelf fits.1 fits.2).symm
  · rename_i beyond
    cases sign <;> simp only [Fits, Sign.apply, least, greatest] at beyond <;>
      simp only [saturate, clamp, Sign.apply, least, greatest, reduceCtorEq, if_true, if_false] <;> omega

theorem integerSaturates (sign : Sign) {ds : List Char} (digits : ∀ c ∈ ds, isDigit c) :
    saturate (integer (sign.written ++ ds)) = clamp (sign.apply (value ds)) := by
  have bare : sign = .none → ∀ c ∈ ds.head?, c ≠ '-' ∧ c ≠ '+' := fun _ c first =>
    digitNotSign (digits c (List.mem_of_mem_head? first))
  have zero : Fits (sign.apply 0) := by cases sign <;> decide
  rw [integer, signOfWritten bare]
  cases ds with
  | nil => cases sign <;> rfl
  | cons c ds =>
    have start : (0 : Int) = sign.apply 0 := by cases sign <;> rfl
    have read := accumulateChecked zero digits
    rw [← start] at read
    simp only [read]
    exact saturateChecked sign (value (c :: ds))

theorem otherBytesOf {ds rest : List Char} (digits : ∀ c ∈ ds, isDigit c)
    (ended : ∀ c ∈ rest.head?, isDigit c = false) :
    (otherBytes? (ds ++ rest)).getD (bytes (ds ++ rest)) = bytes ds := by
  induction ds with
  | nil =>
    cases rest with
    | nil => rfl
    | cons c rest => simp [otherBytes?, ended c rfl, bytes]
  | cons c ds ih =>
    have more := ih fun d mem => digits d (List.mem_cons_of_mem c mem)
    rw [List.cons_append, otherBytes?, if_pos (digits c List.mem_cons_self), bytesCons, bytesCons,
      ← more]
    cases otherBytes? (ds ++ rest) <;> rfl

theorem signBytes {sign : Sign} {s : List Char}
    (bare : sign = .none → ∀ c ∈ s.head?, c ≠ '-' ∧ c ≠ '+') :
    (if (sign.written ++ s).head? = some '-' ∨ (sign.written ++ s).head? = some '+' then 1 else 0) =
      bytes sign.written := by
  cases sign with
  | none =>
    rw [if_neg]
    · rfl
    · rintro (minus | plus)
      · exact (bare rfl '-' minus).1 rfl
      · exact (bare rfl '+' plus).2 rfl
  | plus => rfl
  | minus => rfl

theorem numberCutOf {p : Parts} {s : List Char} (parts : p.Of s) :
    numberCut? (trimStart s) = some (p.sign.written ++ p.digits) := by
  have start := behindBytesAppend p.sign.written (p.digits ++ p.rest)
  have inside : between? 0 (bytes (p.sign.written ++ p.digits))
      (p.sign.written ++ (p.digits ++ p.rest)) = some (p.sign.written ++ p.digits) :=
    cutPrefix ⟨p.rest, List.append_assoc ..⟩
  have stop : ((otherBytes? (p.digits ++ p.rest)).map (bytes p.sign.written + ·)).getD
      (bytes (p.sign.written ++ (p.digits ++ p.rest))) = bytes (p.sign.written ++ p.digits) := by
    rw [bytesAppend _ (p.digits ++ p.rest), bytesAppend _ p.digits, ← otherBytesOf parts.digit parts.ended]
    cases otherBytes? (p.digits ++ p.rest) <;> rfl
  simp only [numberCut?, trimmedOfParts parts, signBytes parts.signed, start, Option.bind_eq_bind,
    Option.bind_some, stop]
  exact inside

theorem leadingCutOf (s : List Char) : leadingCut? s = some (leading s) := by
  have parts := partsOfSpec s
  rw [leadingCut?, numberCutOf parts, Option.map_some, integerSaturates _ parts.digit,
    leadingOfParts parts]

theorem prefixSaturates :
    (∀ s, ∃ p : Parts, p.Of s ∧ (∀ q : Parts, q.Of s → q = p) ∧
      leading s = max (-2 ^ 63) (min (p.sign.apply (Nat.ofDigits 10 (p.digits.map digit).reverse))
        (2 ^ 63 - 1))) ∧
    (∀ (n : Int64) blanks rest, (∀ c ∈ blanks, isBlank c) → (∀ c ∈ rest.head?, isDigit c = false) →
      leading (blanks ++ text n.toInt ++ rest) = n.toInt) ∧
    (∀ s t (p q : Parts), p.Of s → q.Of t → p.sign = q.sign → p.digits = q.digits →
      leading s = leading t) ∧
    ∀ s, leadingCut? s = some (leading s) := by
  refine ⟨?_, ?_, ?_, leadingCutOf⟩
  · intro s
    refine ⟨partsOf s, partsOfSpec s, fun q => partsUnique, ?_⟩
    rw [leadingOfParts (partsOfSpec s), valueOfDigits]
    rfl
  · intro n blanks rest blank ended
    exact leadingWritten n.le_toInt n.toInt_le blank ended
  · intro s t p q parts others sign digits
    rw [leadingOfParts parts, leadingOfParts others, sign, digits]

theorem prefixSaturatesAtBounds :
    (∀ c ∈ [' ', '\u3000'], isBlank c) ∧ (∀ c ∈ ['é', '9'].head?, isDigit c = false) ∧
    leading ([' ', '\u3000'] ++ text Int64.minValue.toInt ++ ['é', '9']) = -2 ^ 63 ∧
    (partsOf "99999999999999999999é".toList).Of "99999999999999999999é".toList ∧
    leading "99999999999999999999é".toList = leading "\t99999999999999999999.5".toList := by
  have blank : ∀ c ∈ [' ', '\u3000'], isBlank c := List.all_eq_true.mp (by decide)
  have ended : ∀ c ∈ ['é', '9'].head?, isDigit c = false := by
    intro c first
    obtain rfl : 'é' = c := Option.some.inj first
    decide
  have parts := partsOfSpec "99999999999999999999é".toList
  have others := partsOfSpec "\t99999999999999999999.5".toList
  refine ⟨blank, ended, ?_, parts, ?_⟩
  · exact (prefixSaturates.2.1 Int64.minValue _ _ blank ended).trans (by decide)
  · exact prefixSaturates.2.2.1 _ _ _ _ parts others (by decide) (by decide)

end Descriptor.Decimal
