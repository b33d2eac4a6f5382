import Mathlib.Data.String.Basic
import Mathlib.Tactic.SplitIfs
import Descriptor.Proofs.Cuts
/-!
Texts as bytes in UTF-8. The bytes of two texts stand in the order in which the texts stand, as a
character that comes before another one comes before it in one of its bytes, too. And a single byte
tells whether a text can be cut in front of it: the first byte of a character is below 128 or from 192
on, and all others are between these.
-/
namespace Descriptor

def utf8 (s : List Char) : List UInt8 := s.flatMap String.utf8EncodeChar

theorem utf8Cons (c : Char) (s : List Char) : utf8 (c :: s) = String.utf8EncodeChar c ++ utf8 s := rfl

theorem utf8OfString (s : String) : s.toUTF8.data.toList = utf8 s.toList := by
  obtain ⟨l, rfl⟩ := s.exists_eq_ofList
  rw [String.toList_ofList, String.toUTF8_eq_toByteArray, String.toByteArray_ofList, List.utf8Encode,
    List.toList_data_toByteArray, utf8]

def code (n : Nat) : List Nat :=
  if n < 128 then [n]
  else if n < 2048 then [192 + n / 64, 128 + n % 64]
  else if n < 65536 then [224 + n / 4096, 128 + n / 64 % 64, 128 + n % 64]
  else [240 + n / 262144, 128 + n / 4096 % 64, 128 + n / 64 % 64, 128 + n % 64]

def points : Nat := 1114112

theorem pointBelow (c : Char) : c.toNat < points := by
  have point : c.val.toNat = c.toNat := rfl
  have valid := c.valid
  simp only [UInt32.isValidChar, Nat.isValidChar, point] at valid
  unfold points
  omega

theorem codeOfChar (c : Char) : (String.utf8EncodeChar c).map UInt8.toNat = code c.toNat := by
  have point : c.val.toNat = c.toNat := rfl
  have below := pointBelow c
  simp only [points] at below
  simp only [String.utf8EncodeChar, point, code, ← Nat.lt_succ_iff]
  split
  · simp
    omega
  · split
    · simp
      omega
    · split
      · simp
        omega
      · simp
        omega

/- Codes of the same length rise with the code points, and longer codes begin with larger bytes. So
one code comes before another in a byte that both have. -/
theorem codeRises {m n : Nat} (less : m < n) (below : n < points) (s t : List Nat) :
    code m ++ s < code n ++ t := by
  unfold points at below
  unfold code
  split_ifs <;> simp only [List.cons_append, List.nil_append, List.cons_lt_cons_iff] <;> omega

theorem numbersLess {s t : List UInt8} (less : s.map UInt8.toNat < t.map UInt8.toNat) : s < t := by
  induction s generalizing t with
  | nil =>
    cases t with
    | nil => exact absurd less (List.lt_irrefl _)
    | cons b t => exact List.nil_lt_cons b t
  | cons a s ih =>
    cases t with
    | nil => exact absurd less (List.not_lt_nil _)
    | cons b t =>
      refine List.cons_lt_cons_iff.mpr ?_
      obtain first | ⟨same, rest⟩ := List.cons_lt_cons_iff.mp less
      · exact .inl (UInt8.lt_iff_toNat_lt.mpr first)
      · exact .inr ⟨UInt8.toNat_inj.mp same, ih rest⟩

theorem utf8Rises {s t : List Char} (less : s < t) : utf8 s < utf8 t := by
  induction s generalizing t with
  | nil =>
    cases t with
    | nil => exact absurd less (List.lt_irrefl _)
    | cons d t =>
      obtain ⟨b, more, first⟩ := List.exists_cons_of_ne_nil (String.utf8EncodeChar_ne_nil (c := d))
      rw [utf8Cons, first]
      exact List.nil_lt_cons b _
  | cons c s ih =>
    cases t with
    | nil => exact absurd less (List.not_lt_nil _)
    | cons d t =>
      rw [utf8Cons, utf8Cons]
      obtain first | ⟨rfl, rest⟩ := List.cons_lt_cons_iff.mp less
      · apply numbersLess
        rw [List.map_append, List.map_append, codeOfChar, codeOfChar]
        exact codeRises first (pointBelow d) _ _
      · exact List.append_left_lt (ih rest)

def BytesBefore (s t : String) : Prop := s.toUTF8.data.toList < t.toUTF8.data.toList

theorem bytesBeforeIff {s t : String} : BytesBefore s t ↔ s < t := by
  have rises {s t : String} (less : s < t) : BytesBefore s t := by
    rw [BytesBefore, utf8OfString, utf8OfString]
    exact utf8Rises (String.lt_iff_toList_lt.mp less)
  constructor
  · intro before
    obtain less | rfl | greater := lt_trichotomy s t
    · exact less
    · exact absurd before (List.lt_irrefl _)
    · exact absurd before (List.lt_asymm (rises greater))
  · exact rises

def starts (b : UInt8) : Bool := b < 128 || 192 ≤ b

/- Whether a text can be cut behind its first `n` bytes, as the byte there tells. -/
def edge (s : List Char) (n : Nat) : Bool :=
  n = 0 || match (utf8 s)[n]? with
    | some b => starts b
    | none => n = (utf8 s).length

theorem startsNumber (b : UInt8) : starts b ↔ b.toNat < 128 ∨ 192 ≤ b.toNat := by
  simp [starts, UInt8.lt_iff_toNat_lt, UInt8.le_iff_toNat_le]

theorem codeHead {n k : Nat} (below : n < points) (head : k ∈ (code n).head?) : k < 128 ∨ 192 ≤ k := by
  unfold points at below
  unfold code at head
  split_ifs at head <;> simp at head <;> omega

theorem codeTail {n k : Nat} (mem : k ∈ (code n).tail) : 128 ≤ k ∧ k < 192 := by
  unfold code at mem
  split_ifs at mem <;> simp at mem <;> omega

theorem firstStarts {s : List Char} {b : UInt8} (first : (utf8 s)[0]? = some b) : starts b := by
  cases s with
  | nil => cases first
  | cons c s =>
    have byte : (String.utf8EncodeChar c).head? = some b := by
      rw [← List.head?_eq_getElem?, utf8Cons, List.head?_append_of_ne_nil _ String.utf8EncodeChar_ne_nil] at first
      exact first
    have number : b.toNat ∈ (code c.toNat).head? := by
      rw [← codeOfChar, List.head?_map, byte]
      rfl
    exact (startsNumber b).mpr (codeHead (pointBelow c) number)

theorem innerDoesNotStart {c : Char} {n : Nat} {b : UInt8} (behind : n ≠ 0)
    (inner : (String.utf8EncodeChar c)[n]? = some b) : starts b = false := by
  obtain ⟨i, rfl⟩ := Nat.exists_eq_succ_of_ne_zero behind
  have number : b.toNat ∈ (code c.toNat).tail := by
    rw [← codeOfChar, ← List.map_tail]
    refine List.mem_map_of_mem (List.mem_of_getElem? (i := i) ?_)
    rwa [List.getElem?_tail]
  have between := codeTail number
  refine Bool.eq_false_iff.mpr fun start => ?_
  obtain low | high := (startsNumber b).mp start
  · omega
  · omega

theorem edgeBehind {c : Char} {n : Nat} (fits : c.utf8Size ≤ n) (s : List Char) :
    edge (c :: s) n = edge s (n - c.utf8Size) := by
  have size : (String.utf8EncodeChar c).length = c.utf8Size := String.length_utf8EncodeChar c
  have byte : (utf8 (c :: s))[n]? = (utf8 s)[n - c.utf8Size]? := by
    rw [utf8Cons, List.getElem?_append_right (by omega), size]
  have whole : n = (utf8 (c :: s)).length ↔ n - c.utf8Size = (utf8 s).length := by
    rw [utf8Cons, List.length_append]
    omega
  have positive := c.utf8Size_pos
  have moved : n ≠ 0 := by omega
  rw [edge, edge, byte]
  simp only [moved, whole, decide_false, Bool.false_or]
  by_cases first : n - c.utf8Size = 0
  · simp only [first, decide_true, Bool.true_or]
    split
    · rename_i b found
      exact firstStarts found
    · rename_i none
      have nothing : utf8 s = [] := by simpa using none
      simp [nothing]
  · simp [first]

theorem edgeInside {c : Char} {n : Nat} (behind : n ≠ 0) (inside : n < c.utf8Size) (s : List Char) :
    edge (c :: s) n = false := by
  have inner : n < (String.utf8EncodeChar c).length := by
    rw [String.length_utf8EncodeChar]
    exact inside
  have byte : (utf8 (c :: s))[n]? = some (String.utf8EncodeChar c)[n] := by
    rw [utf8Cons, List.getElem?_append_left inner, List.getElem?_eq_getElem inner]
  simp [edge, behind, byte, innerDoesNotStart behind (List.getElem?_eq_getElem inner)]

theorem edgeIff (s : List Char) (n : Nat) : edge s n ↔ ∃ r, behindBytes? n s = some r := by
  induction s generalizing n with
  | nil => simp [edge, utf8, behindBytes?]
  | cons c s ih =>
    rw [behindBytes?]
    split
    · rename_i start
      simp [edge, start]
    · rename_i moved
      split
      · rename_i fits
        rw [edgeBehind fits, ih]
      · rename_i inside
        simp [edgeInside moved (Nat.lt_of_not_le inside)]

end Descriptor
