import Descriptor.Proofs.Cuts
import Descriptor.Proofs.Typed
/-!
Identifiers as text. They are read from 32 hexadecimal digits in either case, which stand together or
in groups with dashes between them, and they are written in lower case without dashes.
-/
namespace Descriptor.Guid
open Text (Pattern isBlank join split trim)

def isHex (c : Char) : Bool :=
  ('0' ≤ c && c ≤ '9') || ('a' ≤ c && c ≤ 'f') || ('A' ≤ c && c ≤ 'F')

variable {c : Char} {s ds : List Char} {bs : List UInt8} {n : Nat} {g : Guid}

theorem ofHexCases {P : Char → Prop} (all : ∀ n < 128, isHex (Char.ofNat n) → P (Char.ofNat n))
    (hex : isHex c) : P c := by
  have points : c.toNat < 128 := by
    simp only [isHex, Bool.or_eq_true, Bool.and_eq_true, decide_eq_true_eq] at hex
    obtain (⟨-, high⟩ | ⟨-, high⟩) | ⟨-, high⟩ := hex
    · exact Nat.lt_of_le_of_lt (show c.toNat ≤ 57 from high) (by decide)
    · exact Nat.lt_of_le_of_lt (show c.toNat ≤ 102 from high) (by decide)
    · exact Nat.lt_of_le_of_lt (show c.toNat ≤ 70 from high) (by decide)
  rw [← Char.ofNat_toNat c] at hex ⊢
  exact all c.toNat points hex

theorem hexIff : isHex c ↔ ∃ n, nibble? c = some n := by
  unfold isHex nibble?
  split
  · simp_all
  · split
    · simp_all
    · split
      · simp_all
      · simp_all

theorem nibbleLower (read : nibble? c = some n) : n < 16 ∧ nibble n = c.toLower := by
  have all : ∀ m < 128, isHex (Char.ofNat m) →
      ∀ n ∈ nibble? (Char.ofNat m), n < 16 ∧ nibble n = (Char.ofNat m).toLower := by
    decide +kernel
  exact ofHexCases (P := fun c => ∀ n ∈ nibble? c, n < 16 ∧ nibble n = c.toLower) all
    (hexIff.mpr ⟨n, read⟩) n read

theorem hexPlain (hex : isHex c) : c ≠ '-' ∧ isBlank c = false ∧ c.utf8Size = 1 := by
  have all : ∀ n < 128, isHex (Char.ofNat n) → Char.ofNat n ≠ '-' ∧
      isBlank (Char.ofNat n) = false ∧ (Char.ofNat n).utf8Size = 1 := by
    decide +kernel
  exact ofHexCases (P := fun c => c ≠ '-' ∧ isBlank c = false ∧ c.utf8Size = 1) all hex

theorem hexUpper (hex : isHex c) : isHex c.toUpper ∧ c.toUpper.toLower = c.toLower := by
  have all : ∀ n < 128, isHex (Char.ofNat n) → isHex (Char.ofNat n).toUpper ∧
      (Char.ofNat n).toUpper.toLower = (Char.ofNat n).toLower := by
    decide +kernel
  exact ofHexCases (P := fun c => isHex c.toUpper ∧ c.toUpper.toLower = c.toLower) all hex

def written (bs : List UInt8) : List Char := bs.flatMap fun b => hex b.toNat

theorem writtenCons (b : UInt8) (bs : List UInt8) :
    written (b :: bs) = nibble (b.toNat / 16) :: nibble (b.toNat % 16) :: written bs := rfl

theorem writtenLength (bs : List UInt8) : (written bs).length = 2 * bs.length := by
  induction bs with
  | nil => rfl
  | cons b bs ih =>
    simp only [writtenCons, List.length_cons, ih]
    omega

theorem byteOfNibbles {x y : Nat} (high : x < 16) (low : y < 16) :
    (UInt8.ofNat (16 * x + y)).toNat / 16 = x ∧ (UInt8.ofNat (16 * x + y)).toNat % 16 = y := by
  have small : 16 * x + y < UInt8.size := by
    simp only [UInt8.size]
    omega
  rw [UInt8.toNat_ofNat_of_lt' small]
  omega

theorem nibbleOf (hex : isHex c) (small : n < 16) (lower : c.toLower = nibble n) :
    nibble? c = some n := by
  obtain ⟨m, read⟩ := hexIff.mp hex
  obtain ⟨small', same⟩ := nibbleLower read
  have equal : some m = some n := by
    rw [← nibbleBack small', same, lower, nibbleBack small]
  rw [read, equal]

theorem bytesIff : bytes? ds = some bs ↔ (∀ c ∈ ds, isHex c) ∧ ds.map Char.toLower = written bs := by
  constructor
  · intro read
    -- two digits at a time, as they are read
    fun_induction bytes? ds generalizing bs with
    | case1 =>
      cases read
      exact ⟨by simp, rfl⟩
    | case2 high low rest ih =>
      simp only [bind, Option.bind_eq_some_iff] at read
      obtain ⟨x, first, y, second, more, behind, last⟩ := read
      cases Option.some.inj last
      obtain ⟨hex, lower⟩ := ih behind
      obtain ⟨small, first'⟩ := nibbleLower first
      obtain ⟨small', second'⟩ := nibbleLower second
      obtain ⟨upper, under⟩ := byteOfNibbles small small'
      refine ⟨?_, ?_⟩
      · exact List.forall_mem_cons.mpr ⟨hexIff.mpr ⟨x, first⟩,
          List.forall_mem_cons.mpr ⟨hexIff.mpr ⟨y, second⟩, hex⟩⟩
      · rw [writtenCons, upper, under, List.map_cons, List.map_cons, lower, first', second']
    | case3 => cases read
  · rintro ⟨hex, lower⟩
    -- along the bytes, since the digits are known by what their lower case is written for
    induction bs generalizing ds with
    | nil =>
      obtain rfl := List.map_eq_nil_iff.mp lower
      rfl
    | cons b bs ih =>
      rw [writtenCons] at lower
      obtain ⟨high, tail, rfl, first, rest⟩ := List.map_eq_cons_iff.mp lower
      obtain ⟨low, tail, rfl, second, rest⟩ := List.map_eq_cons_iff.mp rest
      obtain ⟨hex, hexes⟩ := List.forall_mem_cons.mp hex
      obtain ⟨hex', hexes⟩ := List.forall_mem_cons.mp hexes
      have bound : b.toNat < 256 := b.toNat_lt
      have value : 16 * (b.toNat / 16) + b.toNat % 16 = b.toNat := by omega
      rw [bytes?, nibbleOf hex (by omega) first, nibbleOf hex' (by omega) second, ih hexes rest]
      change some (UInt8.ofNat (16 * (b.toNat / 16) + b.toNat % 16) :: bs) = some (b :: bs)
      rw [value, UInt8.ofNat_toNat]

def groups (ds : List Char) : List (List Char) :=
  [ds.take 8, (ds.drop 8).take 4, (ds.drop 12).take 4, (ds.drop 16).take 4, ds.drop 20]

def dashed (ds : List Char) : List Char := join '-' (groups ds)

theorem groupsFlatten (ds : List Char) : (groups ds).flatten = ds := by
  have step (i n : Nat) : (ds.drop i).take n ++ ds.drop (i + n) = ds.drop i := by
    rw [← List.drop_drop, List.take_append_drop]
  have first : ds.take 8 ++ ds.drop 8 = ds := List.take_append_drop 8 ds
  simp only [groups, List.flatten_cons, List.flatten_nil, List.append_nil]
  rw [step 16 4, step 12 4, step 8 4, first]

theorem groupsOf {a b c d e : List Char} (first : a.length = 8) (second : b.length = 4)
    (third : c.length = 4) (fourth : d.length = 4) :
    groups (a ++ b ++ c ++ d ++ e) = [a, b, c, d, e] := by
  generalize whole : a ++ b ++ c ++ d ++ e = ds
  simp only [List.append_assoc] at whole
  have behindA : ds.drop 8 = b ++ (c ++ (d ++ e)) := by rw [← whole, List.drop_left' first]
  have behindB : ds.drop 12 = c ++ (d ++ e) := by
    rw [show 12 = 8 + 4 from rfl, ← List.drop_drop, behindA, List.drop_left' second]
  have behindC : ds.drop 16 = d ++ e := by
    rw [show 16 = 12 + 4 from rfl, ← List.drop_drop, behindB, List.drop_left' third]
  have behindD : ds.drop 20 = e := by
    rw [show 20 = 16 + 4 from rfl, ← List.drop_drop, behindC, List.drop_left' fourth]
  have front : ds.take 8 = a := by rw [← whole, List.take_left' first]
  rw [groups, front, behindA, behindB, behindC, behindD, List.take_left' second,
    List.take_left' third, List.take_left' fourth]

theorem groupLengths (length : ds.length = 32) : (groups ds).map List.length = [8, 4, 4, 4, 12] := by
  simp [groups, length]

theorem splitDashed (bare : '-' ∉ ds) : split '-' (dashed ds) = groups ds := by
  refine Text.splitJoin (List.cons_ne_nil _ _) ?_
  intro part mem dash
  have inside : '-' ∈ (groups ds).flatten := List.mem_flatten.mpr ⟨part, mem, dash⟩
  rw [groupsFlatten] at inside
  exact bare inside

theorem partsGrouped {parts : List (List Char)}
    (lengths : parts.map List.length = [32] ∨ parts.map List.length = [8, 4, 4, 4, 12]) :
    parts.flatten.length = 32 ∧ (parts = [parts.flatten] ∨ parts = groups parts.flatten) := by
  obtain one | five := lengths
  · obtain ⟨part, rfl, length⟩ := List.map_eq_singleton_iff.mp one
    rw [List.flatten_singleton]
    exact ⟨length, .inl rfl⟩
  · obtain ⟨a, _, rfl, first, rest⟩ := List.map_eq_cons_iff.mp five
    obtain ⟨b, _, rfl, second, rest⟩ := List.map_eq_cons_iff.mp rest
    obtain ⟨c, _, rfl, third, rest⟩ := List.map_eq_cons_iff.mp rest
    obtain ⟨d, _, rfl, fourth, rest⟩ := List.map_eq_cons_iff.mp rest
    obtain ⟨e, rfl, fifth⟩ := List.map_eq_singleton_iff.mp rest
    have flat : [a, b, c, d, e].flatten = a ++ b ++ c ++ d ++ e := by simp
    rw [flat, groupsOf first second third fourth]
    exact ⟨by simp [first, second, third, fourth, fifth], .inr rfl⟩

theorem digitsIff : digits? s = some ds ↔ '-' ∉ ds ∧ ds.length = 32 ∧ (s = ds ∨ s = dashed ds) := by
  constructor
  · intro read
    simp only [digits?] at read
    split at read
    · rename_i lengths
      cases Option.some.inj read
      obtain ⟨length, grouped⟩ := partsGrouped lengths
      -- no part has the sign they were split at
      have bare : '-' ∉ (split '-' s).flatten := by
        rw [Text.flattenSplit]
        simp
      have joined : s = join '-' (split '-' s) := (Text.joinSplit '-' s).symm
      refine ⟨bare, length, ?_⟩
      obtain one | five := grouped
      · rw [one, Text.joinSingle] at joined
        exact .inl joined
      · rw [five] at joined
        exact .inr joined
    · cases read
  · rintro ⟨bare, length, rfl | rfl⟩
    · simp [digits?, Text.splitWhole bare, length]
    · have lengths := groupLengths length
      simp only [digits?, splitDashed bare, lengths, or_true, if_true, groupsFlatten]

structure Written (s ds : List Char) : Prop where
  length : ds.length = 32
  hex : ∀ c ∈ ds, isHex c
  form : s = ds ∨ s = dashed ds

theorem Written.bare (w : Written s ds) : '-' ∉ ds := fun dash =>
  (hexPlain (w.hex '-' dash)).1 rfl

theorem Written.undashed (w : Written s ds) : s.filter (· ≠ '-') = ds := by
  rw [← Text.flattenSplit]
  obtain rfl | rfl := w.form
  · rw [Text.splitWhole w.bare, List.flatten_singleton]
  · rw [splitDashed w.bare, groupsFlatten]

theorem Written.trimmed (w : Written s ds) : trim s = s := by
  apply Text.trimSelf
  intro c mem
  by_cases dash : c = '-'
  · subst dash
    decide
  · have digit : c ∈ ds := by
      rw [← w.undashed]
      exact List.mem_filter.mpr ⟨mem, by simpa using dash⟩
    exact (hexPlain (w.hex c digit)).2.1

theorem textWritten (g : Guid) : g.text = written g.bytes := rfl

theorem readIff : read? s = some g ↔ ∃ ds, Written (trim s) ds ∧ ds.map Char.toLower = g.text := by
  have parts : read? s = some g ↔ ∃ ds, digits? (trim s) = some ds ∧ bytes? ds = some g.bytes := by
    simp only [read?, bind, Option.bind_eq_some_iff, ofBytes?]
    constructor
    · rintro ⟨ds, digits, bytes, read, sixteen⟩
      split at sixteen
      · cases Option.some.inj sixteen
        exact ⟨ds, digits, read⟩
      · cases sixteen
    · rintro ⟨ds, digits, read⟩
      exact ⟨ds, digits, g.bytes, read, by rw [dif_pos g.bytesLength]⟩
  rw [parts]
  constructor
  · rintro ⟨ds, digits, read⟩
    obtain ⟨-, length, form⟩ := digitsIff.mp digits
    obtain ⟨hex, lower⟩ := bytesIff.mp read
    exact ⟨ds, ⟨length, hex, form⟩, lower⟩
  · rintro ⟨ds, w, lower⟩
    exact ⟨ds, digitsIff.mpr ⟨w.bare, w.length, w.form⟩, bytesIff.mpr ⟨w.hex, lower⟩⟩

def form : Pattern :=
  let hex (n : Nat) := Pattern.exactly n isHex
  let dash := Pattern.one '-'
  .alt (hex 32) (.seq (hex 8) (.seq dash (.seq (hex 4) (.seq dash (.seq (hex 4) (.seq dash
    (.seq (hex 4) (.seq dash (hex 12)))))))))

theorem formIff {kept : List (List Char)} : form.Matches s kept ↔ kept = [] ∧ ∃ ds, Written s ds := by
  have alternatives : form.Matches s kept ↔ (Pattern.exactly 32 isHex).Matches s kept ∨
      (Pattern.seq (.exactly 8 isHex) (.seq (.one '-') (.seq (.exactly 4 isHex) (.seq (.one '-')
        (.seq (.exactly 4 isHex) (.seq (.one '-') (.seq (.exactly 4 isHex) (.seq (.one '-')
          (.exactly 12 isHex))))))))).Matches s kept := Iff.rfl
  rw [alternatives]
  simp only [Pattern.behindExactly, Pattern.behindOne, Pattern.exactlyIff]
  constructor
  · rintro (⟨none, length, hex⟩ | ⟨a, _, rfl, ⟨first, hexA⟩, _, rfl, b, _, rfl, ⟨second, hexB⟩, _, rfl,
      c, _, rfl, ⟨third, hexC⟩, _, rfl, d, _, rfl, ⟨fourth, hexD⟩, e, rfl, none, fifth, hexE⟩)
    · exact ⟨none, s, length, hex, .inl rfl⟩
    · refine ⟨none, a ++ b ++ c ++ d ++ e, ?_, ?_, .inr ?_⟩
      · simp [first, second, third, fourth, fifth]
      · simp only [List.forall_mem_append]
        exact ⟨⟨⟨⟨hexA, hexB⟩, hexC⟩, hexD⟩, hexE⟩
      · rw [dashed, groupsOf first second third fourth]
        simp [Text.joinCons, Text.joinSingle]
  · rintro ⟨none, ds, length, hex, rfl | rfl⟩
    · exact .inl ⟨none, length, hex⟩
    · have part {i n : Nat} : ∀ c ∈ (ds.drop i).take n, isHex c := fun c mem =>
        hex c (List.mem_of_mem_drop (List.mem_of_mem_take mem))
      refine .inr ⟨ds.take 8, _, Text.joinCons .., ⟨by simp [length], ?_⟩, _, rfl,
        (ds.drop 8).take 4, _, Text.joinCons .., ⟨by simp [length], part⟩, _, rfl,
        (ds.drop 12).take 4, _, Text.joinCons .., ⟨by simp [length], part⟩, _, rfl,
        (ds.drop 16).take 4, _, Text.joinCons .., ⟨by simp [length], part⟩, _, rfl,
        none, ?_, ?_⟩
      · exact fun c mem => hex c (List.mem_of_mem_take mem)
      · rw [Text.joinSingle]
        simp [length]
      · rw [Text.joinSingle]
        exact fun c mem => hex c (List.mem_of_mem_drop mem)

inductive Slip
  | cut | conversion
  deriving DecidableEq, Repr

def number? (s : List Char) : Option Nat :=
  s.foldlM (fun n c => (nibble? c).map (16 * n + ·)) 0

def byte? (s : List Char) : Option UInt8 := do
  let digits := match s with
    | '+' :: rest => rest
    | _ => s
  let n ← if digits.isEmpty then none else number? digits
  if n < UInt8.size then some (UInt8.ofNat n) else none

def slice (ds : List Char) (i : Nat) : Except Slip UInt8 :=
  match between? (2 * i) (2 * i + 2) ds with
  | none => .error .cut
  | some pair =>
    match byte? pair with
    | none => .error .conversion
    | some b => .ok b

theorem bytePair {high low : Char} {x y : Nat} (first : nibble? high = some x)
    (second : nibble? low = some y) : byte? [high, low] = some (UInt8.ofNat (16 * x + y)) := by
  have unsigned : high ≠ '+' := by
    rintro rfl
    cases first
  obtain ⟨small, -⟩ := nibbleLower first
  obtain ⟨small', -⟩ := nibbleLower second
  have number : number? [high, low] = some (16 * x + y) := by simp [number?, first, second]
  have within : 16 * x + y < UInt8.size := by
    simp only [UInt8.size]
    omega
  unfold byte?
  split
  · rename_i same
    cases same
    contradiction
  · simp [number, within]

theorem bytesPlain (hex : ∀ c ∈ s, isHex c) : Descriptor.bytes s = s.length := by
  induction s with
  | nil => rfl
  | cons c s ih =>
    obtain ⟨digit, more⟩ := List.forall_mem_cons.mp hex
    rw [bytesCons, (hexPlain digit).2.2, ih more, List.length_cons, Nat.add_comm]

theorem pairAt {b : UInt8} {i : Nat} (read : bytes? ds = some bs) (byte : bs[i]? = some b) :
    ∃ before high low after x y, ds = before ++ [high, low] ++ after ∧ before.length = 2 * i ∧
      nibble? high = some x ∧ nibble? low = some y ∧ b = UInt8.ofNat (16 * x + y) := by
  fun_induction bytes? ds generalizing bs i with
  | case1 =>
    cases read
    cases byte
  | case2 high low rest ih =>
    simp only [bind, Option.bind_eq_some_iff] at read
    obtain ⟨x, first, y, second, more, behind, last⟩ := read
    cases Option.some.inj last
    cases i with
    | zero =>
      cases Option.some.inj byte
      exact ⟨[], high, low, rest, x, y, rfl, rfl, first, second, rfl⟩
    | succ i =>
      obtain ⟨before, high', low', after, x', y', rfl, place, first', second', same⟩ := ih behind byte
      refine ⟨high :: low :: before, high', low', after, x', y', rfl, ?_, first', second', same⟩
      simp only [List.length_cons, place]
      omega
  | case3 => cases read

theorem sliceGives {b : UInt8} {i : Nat} (read : bytes? ds = some bs) (byte : bs[i]? = some b) :
    slice ds i = .ok b := by
  obtain ⟨before, high, low, after, x, y, rfl, place, first, second, rfl⟩ := pairAt read byte
  have hex := (bytesIff.mp read).1
  have start : Descriptor.bytes before = 2 * i := by
    rw [bytesPlain fun c mem => hex c (by simp [mem]), place]
  have stop : Descriptor.bytes (before ++ [high, low]) = 2 * i + 2 := by
    rw [bytesPlain fun c mem => hex c (List.mem_append_left _ mem), List.length_append, place]
    rfl
  have cut := betweenAppend before [high, low] after
  rw [start, stop] at cut
  rw [slice, cut]
  simp only [bytePair first second]

theorem nibbleDigit (small : n < 16) : isHex (nibble n) ∧ (nibble n).toLower = nibble n := by
  have all : ∀ n < 16, isHex (nibble n) ∧ (nibble n).toLower = nibble n := by decide
  exact all n small

theorem writtenDigits (bs : List UInt8) :
    (∀ c ∈ written bs, isHex c) ∧ (written bs).map Char.toLower = written bs := by
  induction bs with
  | nil => exact ⟨List.forall_mem_nil _, rfl⟩
  | cons b bs ih =>
    have bound : b.toNat < 256 := b.toNat_lt
    obtain ⟨high, upper⟩ := nibbleDigit (show b.toNat / 16 < 16 by omega)
    obtain ⟨low, under⟩ := nibbleDigit (show b.toNat % 16 < 16 by omega)
    rw [writtenCons]
    constructor
    · exact List.forall_mem_cons.mpr ⟨high, List.forall_mem_cons.mpr ⟨low, ih.1⟩⟩
    · rw [List.map_cons, List.map_cons, upper, under, ih.2]

theorem readOf (w : Written s ds) (lower : ds.map Char.toLower = g.text) :
    read (String.ofList s) = .ok g := by
  have found : read? s = some g := readIff.mpr ⟨ds, by rwa [w.trimmed], lower⟩
  simp only [read, String.toList_ofList, found]

theorem textForm (g : Guid) (form : s = g.text ∨ s = dashed g.text) : Written s g.text where
  length := by rw [textWritten, writtenLength, g.bytesLength]
  hex := (writtenDigits g.bytes).1
  form := form

theorem upperForm (g : Guid) : Written (g.text.map Char.toUpper) (g.text.map Char.toUpper) where
  length := by rw [List.length_map, textWritten, writtenLength, g.bytesLength]
  hex := by
    intro c mem
    obtain ⟨d, digit, rfl⟩ := List.mem_map.mp mem
    exact (hexUpper ((writtenDigits g.bytes).1 d digit)).1
  form := .inl rfl

theorem upperLower (g : Guid) : (g.text.map Char.toUpper).map Char.toLower = g.text := by
  obtain ⟨hex, lower⟩ := writtenDigits g.bytes
  rw [List.map_map, textWritten]
  refine (List.map_congr_left ?_).trans lower
  intro c mem
  exact (hexUpper (hex c mem)).2

theorem comparesLists (s t : List Nat) : (compare s t).Compares s t := by
  induction s generalizing t with
  | nil =>
    cases t with
    | nil => rfl
    | cons b t => exact List.nil_lt_cons b t
  | cons a s ih =>
    cases t with
    | nil => exact List.nil_lt_cons a s
    | cons b t =>
      rw [List.compare_eq_compareLex, List.compareLex_cons_cons, ← List.compare_eq_compareLex]
      exact comparesThen (comparesCompare a b) (ih t)

theorem orderOfTexts (g h : Guid) : g.order h = compare (String.ofList g.text) (String.ofList h.text) := by
  have bytes : (g.order h).Compares g.numbers h.numbers := comparesLists _ _
  have texts := comparesTexts (String.ofList ∘ text) numbers textLess textEqual g h
  exact bytes.inj texts

theorem bytesDefined (hex : ∀ c ∈ ds, isHex c) (even : ds.length % 2 = 0) :
    ∃ bs, bytes? ds = some bs := by
  fun_induction bytes? ds with
  | case1 => exact ⟨[], rfl⟩
  | case2 high low rest ih =>
    obtain ⟨digit, hexes⟩ := List.forall_mem_cons.mp hex
    obtain ⟨digit', hexes⟩ := List.forall_mem_cons.mp hexes
    obtain ⟨x, first⟩ := hexIff.mp digit
    obtain ⟨y, second⟩ := hexIff.mp digit'
    simp only [List.length_cons] at even
    obtain ⟨bs, read⟩ := ih hexes (by omega)
    exact ⟨UInt8.ofNat (16 * x + y) :: bs, by simp [first, second, read]⟩
  | case3 => simp at even

theorem Written.guid (w : Written s ds) : ∃ g : Guid, bytes? ds = some g.bytes := by
  obtain ⟨bs, read⟩ := bytesDefined w.hex (by rw [w.length])
  have lengths := congrArg List.length (bytesIff.mp read).2
  rw [List.length_map, writtenLength, w.length] at lengths
  exact ⟨⟨bs, by omega⟩, read⟩

theorem readOkIff {s : String} : read s = .ok g ↔ read? s.toList = some g := by
  rw [read]
  cases read? s.toList <;> simp

theorem acceptedIff : (∃ g, read? s = some g) ↔ ∃ ds, Written (trim s) ds := by
  constructor
  · rintro ⟨g, found⟩
    obtain ⟨ds, w, -⟩ := readIff.mp found
    exact ⟨ds, w⟩
  · rintro ⟨ds, w⟩
    obtain ⟨g, digits⟩ := w.guid
    exact ⟨g, readIff.mpr ⟨ds, w, (bytesIff.mp digits).2⟩⟩

structure ReadAsWritten (s : String) : Prop where
  accepted : (∃ g, read s = .ok g) ↔ ∃ ds, Written (trim s.toList) ds
  lower : ∀ g, read s = .ok g → g.text = ((trim s.toList).filter (· ≠ '-')).map Char.toLower
  pattern : form.Matches (trim s.toList) [] ↔ ∃ ds, Written (trim s.toList) ds
  slices : form.Matches (trim s.toList) [] → ∃ g, read s = .ok g ∧
    ∀ i < 16, ∃ b, slice ((trim s.toList).filter (· ≠ '-')) i = .ok b ∧ g.bytes[i]? = some b

theorem readAsWritten (s : String) : ReadAsWritten s where
  accepted := by
    simp only [readOkIff]
    exact acceptedIff
  lower g found := by
    obtain ⟨ds, w, lower⟩ := readIff.mp (readOkIff.mp found)
    rw [w.undashed, lower]
  pattern := by simp [formIff]
  slices matched := by
    obtain ⟨-, ds, w⟩ := formIff.mp matched
    obtain ⟨g, digits⟩ := w.guid
    have found : read? s.toList = some g := readIff.mpr ⟨ds, w, (bytesIff.mp digits).2⟩
    refine ⟨g, readOkIff.mpr found, ?_⟩
    intro i small
    have inside : i < g.bytes.length := by rwa [g.bytesLength]
    have byte : g.bytes[i]? = some g.bytes[i] := List.getElem?_eq_getElem inside
    exact ⟨g.bytes[i], by rw [w.undashed]; exact sliceGives digits byte, byte⟩

structure ReadBack (g : Guid) : Prop where
  bare : read (String.ofList g.text) = .ok g
  upper : read (String.ofList (g.text.map Char.toUpper)) = .ok g
  dashed : read (String.ofList (dashed g.text)) = .ok g

theorem readBack (g : Guid) : ReadBack g where
  bare := readOf (textForm g (.inl rfl)) (writtenDigits g.bytes).2
  upper := readOf (upperForm g) (upperLower g)
  dashed := readOf (textForm g (.inr rfl)) (writtenDigits g.bytes).2

theorem readingFollowsForm : (∀ s, ReadAsWritten s) ∧ (∀ g, ReadBack g) ∧
    ∀ g h : Guid, g.order h = compare (String.ofList g.text) (String.ofList h.text) :=
  ⟨readAsWritten, readBack, orderOfTexts⟩

theorem readingFollowsFormOfMixed :
    (∃ g, read " 00112233-4455-6677-8899-aabbCCDDeeFF\n" = .ok g ∧
      ∀ i < 16, ∃ b, slice "00112233445566778899aabbCCDDeeFF".toList i = .ok b ∧
        g.bytes[i]? = some b) ∧
      (∀ g, read "00112233-4455-6677-8899aabbccddeeff" ≠ .ok g) ∧
      slice "+f112233445566778899aabbccddeeff".toList 0 = .ok 15 := by
  obtain ⟨reads, -, -⟩ := readingFollowsForm
  refine ⟨?_, ?_, by decide +kernel⟩
  · have w : Written (trim " 00112233-4455-6677-8899-aabbCCDDeeFF\n".toList)
        "00112233445566778899aabbCCDDeeFF".toList :=
      ⟨by decide +kernel, List.all_eq_true.mp (by decide +kernel), .inr (by decide +kernel)⟩
    have alike := reads " 00112233-4455-6677-8899-aabbCCDDeeFF\n"
    have taken := alike.slices (alike.pattern.mpr ⟨_, w⟩)
    rwa [w.undashed] at taken
  · intro g found
    have refused : read? "00112233-4455-6677-8899aabbccddeeff".toList = none := by decide +kernel
    rw [readOkIff, refused] at found
    cases found

end Descriptor.Guid
