import Descriptor.Proofs.Pattern
import Descriptor.Proofs.Separation
/-!
Versions as text. The strict reader takes three numbers in ASCII digits with dots between them, and
takes them for the same version as the lenient one does, which would have taken anything.
-/
namespace Descriptor.Version
open Text (Pattern isBlank join split trim)

def Digits (s : List Char) : Prop := s ≠ [] ∧ ∀ c ∈ s, Decimal.isDigit c

def Written (s : List Char) (n : UInt32) : Prop := Digits s ∧ Decimal.value s = n.toNat

variable {s a b c : List Char} {v : Version}

theorem Digits.undotted (digits : Digits s) : '.' ∉ s := fun mem =>
  absurd (digits.2 '.' mem) (by decide)

theorem Digits.visible (digits : Digits s) : ∀ c ∈ s, isBlank c = false := fun c mem =>
  Decimal.digitNotBlank (digits.2 c mem)

theorem digitsWritten (n : UInt32) : Written (Decimal.digits n.toNat) n :=
  ⟨⟨Decimal.digitsNotEmpty _, fun _ => Decimal.isDigitOfMem⟩, Decimal.valueDigits _⟩

theorem numberIff {n : UInt32} : number? s = some n ↔ Written s n := by
  rw [number?, Option.map_eq_some_iff]
  constructor
  · rintro ⟨m, below, rfl⟩
    obtain ⟨some, digits, value, small⟩ := Decimal.belowIff.mp below
    exact ⟨⟨some, digits⟩, by rw [value, UInt32.toNat_ofNat_of_lt' small]⟩
  · rintro ⟨⟨some, digits⟩, value⟩
    have below : Decimal.below? UInt32.size s = .some n.toNat :=
      Decimal.belowIff.mpr ⟨some, digits, value, n.toNat_lt⟩
    exact ⟨n.toNat, below, UInt32.ofNat_toNat⟩

theorem leadingNumberWritten {n : UInt32} (written : Written s n) : leadingNumber s = n := by
  obtain ⟨⟨-, digits⟩, value⟩ := written
  have bound : n.toNat < UInt32.size := n.toNat_lt
  have number : Decimal.leading s = n.toNat := by
    rw [Decimal.leadingOfDigits digits, value]
    apply Decimal.clampSelf
    · simp only [Decimal.least]
      omega
    · simp only [Decimal.greatest, UInt32.size] at *
      omega
  have within : 0 ≤ (n.toNat : Int) ∧ (n.toNat : Int) < UInt32.size := by omega
  rw [leadingNumber, number, if_pos within, Int.toNat_natCast, UInt32.ofNat_toNat]

theorem eachOfThree {P : List Char → Prop} :
    (∀ part ∈ [a, b, c], P part) ↔ P a ∧ P b ∧ P c := by
  simp

theorem splitParts (first : Digits a) (second : Digits b) (third : Digits c) :
    split '.' (join '.' [a, b, c]) = [a, b, c] :=
  Text.splitJoin (List.cons_ne_nil a [b, c])
    (eachOfThree.mpr ⟨first.undotted, second.undotted, third.undotted⟩)

theorem trimJoin {parts : List (List Char)} (visible : ∀ part ∈ parts, ∀ c ∈ part, isBlank c = false) :
    trim (join '.' parts) = join '.' parts := by
  apply Text.trimSelf
  intro c mem
  obtain rfl | ⟨part, there, inside⟩ := Text.memJoin mem
  · decide
  · exact visible part there c inside

theorem readIff : read? s = some v ↔ ∃ a b c, trim s = join '.' [a, b, c] ∧
    Written a v.major ∧ Written b v.minor ∧ Written c v.patch := by
  constructor
  · intro read
    unfold read? at read
    split at read
    · rename_i a b c parts
      simp only [bind, Option.bind_eq_some_iff] at read
      obtain ⟨_, major, _, minor, _, patch, last⟩ := read
      cases Option.some.inj last
      exact ⟨a, b, c, by rw [← parts, Text.joinSplit], numberIff.mp major, numberIff.mp minor,
        numberIff.mp patch⟩
    · cases read
  · rintro ⟨a, b, c, joined, major, minor, patch⟩
    have parts : split '.' (trim s) = [a, b, c] := by
      rw [joined, splitParts major.1 minor.1 patch.1]
    simp only [read?, parts, numberIff.mpr major, numberIff.mpr minor, numberIff.mpr patch]
    rfl

theorem readOkIff {s : String} : read s = .ok v ↔ read? s.toList = some v := by
  rw [read]
  cases read? s.toList <;> simp

theorem leadingOfRead (read : read? s = some v) : leading s = v := by
  obtain ⟨a, b, c, joined, major, minor, patch⟩ := readIff.mp read
  have parts : split '.' (trim s) = [a, b, c] := by
    rw [joined, splitParts major.1 minor.1 patch.1]
  rw [leading, parts]
  simp [leadingNumberWritten major, leadingNumberWritten minor, leadingNumberWritten patch]

theorem textJoined (v : Version) : v.text = join '.' [Decimal.digits v.major.toNat,
    Decimal.digits v.minor.toNat, Decimal.digits v.patch.toNat] := by
  simp [text, Text.joinCons, Text.joinSingle]

theorem readText (v : Version) {before after : List Char} (front : ∀ c ∈ before, isBlank c)
    (behind : ∀ c ∈ after, isBlank c) : read? (before ++ v.text ++ after) = some v := by
  refine readIff.mpr ⟨_, _, _, ?_, digitsWritten _, digitsWritten _, digitsWritten _⟩
  rw [Text.trimBetween front behind, textJoined]
  apply trimJoin
  have visible (n : UInt32) := (digitsWritten n).1.visible
  exact eachOfThree.mpr ⟨visible v.major, visible v.minor, visible v.patch⟩

theorem leadingText (v : Version) : leading v.text = v := by
  have none : ∀ c ∈ ([] : List Char), isBlank c := List.forall_mem_nil _
  have read := readText v none none
  rw [List.nil_append, List.append_nil] at read
  exact leadingOfRead read

/- Decimal digits of all scripts. What counts is that those of ASCII are among them, and that the
signs that stand beside them in a version are not. -/
structure DigitClass where
  has : Char → Bool
  ascii : ∀ {c}, Decimal.isDigit c → has c
  visible : ∀ {c}, has c → isBlank c = false
  dot : has '.' = false
  plus : has '+' = false

def DigitClass.Run (d : DigitClass) (s : List Char) : Prop := s ≠ [] ∧ ∀ c ∈ s, d.has c

def strict (d : DigitClass) : Pattern :=
  let blanks := Pattern.run 0 none isBlank
  let number := Pattern.keep (.run 1 none d.has)
  .seq blanks (.seq number (.seq (.one '.') (.seq number (.seq (.one '.') (.seq number blanks)))))

def word? : List Char → Option UInt32
  | '+' :: rest => number? rest
  | s => number? s

def Matched (d : DigitClass) (s : List Char) (v : Version) : Prop :=
  ∃ a b c, (strict d).Matches s [a, b, c] ∧
    word? a = some v.major ∧ word? b = some v.minor ∧ word? c = some v.patch

variable {d : DigitClass} {kept other : List (List Char)}

theorem strictIff : (strict d).Matches s kept ↔ ∃ a b c, kept = [a, b, c] ∧
    trim s = join '.' [a, b, c] ∧ ∀ part ∈ [a, b, c], d.Run part := by
  simp only [strict, Pattern.behindMany, Pattern.behindKept, Pattern.behindOne, Pattern.manyIff]
  constructor
  · rintro ⟨before, _, rfl, ⟨-, front⟩, a, _, _, rfl, rfl, ⟨some, first⟩, _, rfl, b, _, _, rfl, rfl,
      ⟨some', second⟩, _, rfl, c, after, _, rfl, rfl, ⟨some'', third⟩, rfl, -, behind⟩
    have runs : ∀ part ∈ [a, b, c], d.Run part := eachOfThree.mpr
      ⟨⟨List.ne_nil_of_length_pos some, first⟩, ⟨List.ne_nil_of_length_pos some', second⟩,
        ⟨List.ne_nil_of_length_pos some'', third⟩⟩
    have whole : before ++ (a ++ '.' :: (b ++ '.' :: (c ++ after))) =
        before ++ join '.' [a, b, c] ++ after := by
      simp [Text.joinCons, Text.joinSingle]
    refine ⟨a, b, c, rfl, ?_, runs⟩
    rw [whole, Text.trimBetween front behind]
    exact trimJoin fun part mem e inside => d.visible ((runs part mem).2 e inside)
  · rintro ⟨a, b, c, rfl, trimmed, runs⟩
    obtain ⟨before, after, whole, front, behind⟩ := Text.trimWhole s
    obtain ⟨⟨some, first⟩, ⟨some', second⟩, ⟨some'', third⟩⟩ := eachOfThree.mp runs
    refine ⟨before, _, ?_, ⟨Nat.zero_le _, front⟩, a, _, _, rfl, rfl,
      ⟨List.length_pos_iff.mpr some, first⟩, _, rfl, b, _, _, rfl, rfl,
      ⟨List.length_pos_iff.mpr some', second⟩, _, rfl, c, after, [], rfl, rfl,
      ⟨List.length_pos_iff.mpr some'', third⟩, rfl, Nat.zero_le _, behind⟩
    rw [whole, trimmed]
    simp [Text.joinCons, Text.joinSingle]

theorem strictUnique (one : (strict d).Matches s kept) (two : (strict d).Matches s other) :
    kept = other := by
  obtain ⟨a, b, c, rfl, trimmed, runs⟩ := strictIff.mp one
  obtain ⟨a', b', c', rfl, trimmed', runs'⟩ := strictIff.mp two
  have undotted {part : List Char} (run : d.Run part) : '.' ∉ part := fun mem =>
    absurd (run.2 '.' mem) (by simp [d.dot])
  -- no run has a dot, so both are what the text falls into at its dots
  rw [← Text.splitJoin (List.cons_ne_nil a [b, c]) fun part mem => undotted (runs part mem),
    ← Text.splitJoin (List.cons_ne_nil a' [b', c']) fun part mem => undotted (runs' part mem),
    ← trimmed, trimmed']

theorem wordOfRun (run : d.Run s) : word? s = number? s := by
  unfold word?
  split
  · rename_i rest
    have plus := run.2 '+' List.mem_cons_self
    simp [d.plus] at plus
  · rfl

theorem Digits.run (digits : Digits s) : d.Run s := ⟨digits.1, fun c mem => d.ascii (digits.2 c mem)⟩

theorem matchedIff : Matched d s v ↔ read? s = some v := by
  rw [readIff]
  constructor
  · rintro ⟨a, b, c, whole, major, minor, patch⟩
    obtain ⟨_, _, _, same, trimmed, runs⟩ := strictIff.mp whole
    cases same
    obtain ⟨first, second, third⟩ := eachOfThree.mp runs
    rw [wordOfRun first] at major
    rw [wordOfRun second] at minor
    rw [wordOfRun third] at patch
    exact ⟨a, b, c, trimmed, numberIff.mp major, numberIff.mp minor, numberIff.mp patch⟩
  · rintro ⟨a, b, c, trimmed, major, minor, patch⟩
    have first : d.Run a := major.1.run
    have second : d.Run b := minor.1.run
    have third : d.Run c := patch.1.run
    refine ⟨a, b, c, strictIff.mpr ⟨a, b, c, rfl, trimmed, ?_⟩, ?_⟩
    · exact eachOfThree.mpr ⟨first, second, third⟩
    · rw [wordOfRun first, wordOfRun second, wordOfRun third]
      exact ⟨numberIff.mpr major, numberIff.mpr minor, numberIff.mpr patch⟩

theorem writtenOf (digits : Digits s) (small : Decimal.value s ≤ 4294967295) :
    Written s (UInt32.ofNat (Decimal.value s)) :=
  ⟨digits, (UInt32.toNat_ofNat_of_lt' (Nat.lt_succ_of_le small)).symm⟩

theorem Written.small {n : UInt32} (written : Written s n) :
    Digits s ∧ Decimal.value s ≤ 4294967295 :=
  ⟨written.1, by rw [written.2]; exact Nat.le_of_lt_succ n.toNat_lt⟩

theorem acceptedIff : (∃ v, read? s = some v) ↔ ∃ a b c, trim s = join '.' [a, b, c] ∧
    ∀ part ∈ [a, b, c], Digits part ∧ Decimal.value part ≤ 4294967295 := by
  constructor
  · rintro ⟨v, read⟩
    obtain ⟨a, b, c, trimmed, major, minor, patch⟩ := readIff.mp read
    exact ⟨a, b, c, trimmed, eachOfThree.mpr ⟨major.small, minor.small, patch.small⟩⟩
  · rintro ⟨a, b, c, trimmed, parts⟩
    obtain ⟨major, minor, patch⟩ := eachOfThree.mp parts
    exact ⟨⟨_, _, _⟩, readIff.mpr ⟨a, b, c, trimmed, writtenOf major.1 major.2,
      writtenOf minor.1 minor.2, writtenOf patch.1 patch.2⟩⟩

structure ReadAlike (d : DigitClass) (s : String) : Prop where
  accepted : (∃ v, read s = .ok v) ↔ ∃ a b c, trim s.toList = join '.' [a, b, c] ∧
    ∀ part ∈ [a, b, c], Digits part ∧ Decimal.value part ≤ 4294967295
  numbers : ∀ v, read s = .ok v ↔ ∃ a b c, trim s.toList = join '.' [a, b, c] ∧
    Written a v.major ∧ Written b v.minor ∧ Written c v.patch
  matched : ∀ v, read s = .ok v ↔ Matched d s.toList v
  unique : ∀ kept other, (strict d).Matches s.toList kept → (strict d).Matches s.toList other →
    kept = other
  lenient : ∀ v, read s = .ok v → leading s.toList = v

theorem readAlike (d : DigitClass) (s : String) : ReadAlike d s where
  accepted := by
    simp only [readOkIff]
    exact acceptedIff
  numbers v := readOkIff.trans readIff
  matched v := readOkIff.trans matchedIff.symm
  unique kept other := strictUnique
  lenient v read := leadingOfRead (readOkIff.mp read)

theorem strictLenientAgree (d : DigitClass) : (∀ s, ReadAlike d s) ∧
    ∀ v before after, (∀ c ∈ before, isBlank c) → (∀ c ∈ after, isBlank c) →
      read (String.ofList (before ++ text v ++ after)) = .ok v ∧
        leading (before ++ text v ++ after) = v := by
  refine ⟨readAlike d, ?_⟩
  intro v before after front behind
  have read := readText v front behind
  exact ⟨readOkIff.mpr (by rwa [String.toList_ofList]), leadingOfRead read⟩

def twoScripts : DigitClass where
  has c := Decimal.isDigit c || ('٠' ≤ c && c ≤ '٩')
  ascii digit := by simp [digit]
  visible {c} digit := by
    obtain digit | arabic : Decimal.isDigit c ∨ ('٠' ≤ c && c ≤ '٩') := by simpa using digit
    · exact Decimal.digitNotBlank digit
    · have bounds : '٠' ≤ c ∧ c ≤ '٩' := by simpa using arabic
      have points : 0x660 ≤ c.toNat ∧ c.toNat ≤ 0x669 := bounds
      have none : ∀ n < 0x66A, 0x660 ≤ n → Text.CharClass.covers n Text.blank.ranges = false := by
        decide +kernel
      exact none _ (Nat.lt_succ_of_le points.2) points.1
  dot := by decide
  plus := by decide

theorem strictLenientAgreeAtBounds :
    Matched twoScripts "\u2003007.0.4294967295\n".toList ⟨7, 0, 4294967295⟩ ∧
      leading "\u2003007.0.4294967295\n".toList = ⟨7, 0, 4294967295⟩ ∧
      (∀ v, ¬ Matched twoScripts "1.٢.3".toList v) ∧
      (∀ kept, (strict twoScripts).Matches "1.٢.3".toList kept → kept = [['1'], ['٢'], ['3']]) ∧
      read (String.ofList (['\u2003'] ++ text ⟨7, 0, 4294967295⟩ ++ ['\n'])) =
        .ok ⟨7, 0, 4294967295⟩ := by
  obtain ⟨alike, back⟩ := strictLenientAgree twoScripts
  have padded : read "\u2003007.0.4294967295\n" = .ok ⟨7, 0, 4294967295⟩ :=
    readOkIff.mpr (by decide +kernel)
  have single {c : Char} (digit : twoScripts.has c) : twoScripts.Run [c] :=
    ⟨List.cons_ne_nil c [], List.forall_mem_singleton.mpr digit⟩
  have arabic : (strict twoScripts).Matches "1.٢.3".toList [['1'], ['٢'], ['3']] :=
    strictIff.mpr ⟨['1'], ['٢'], ['3'], rfl, by decide +kernel,
      eachOfThree.mpr ⟨single (by decide), single (by decide), single (by decide)⟩⟩
  refine ⟨((alike _).matched _).mp padded, (alike _).lenient _ padded, ?_, ?_, ?_⟩
  · intro v matched
    have read := ((alike _).matched v).mpr matched
    have refused : read? "1.٢.3".toList = none := by decide +kernel
    rw [readOkIff, refused] at read
    cases read
  · intro kept matched
    exact (alike _).unique _ _ matched arabic
  · have spaced {c : Char} (blank : isBlank c) : ∀ d ∈ [c], isBlank d :=
      List.forall_mem_singleton.mpr blank
    exact (back _ _ _ (spaced (by decide)) (spaced (by decide))).1

end Descriptor.Version
