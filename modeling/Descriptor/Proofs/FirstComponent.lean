import Mathlib.Data.List.DropRight
import Descriptor.Proofs.Boundary
import Descriptor.Proofs.Typed
/-!
Lists where numbers are compared. The components of a list are joined by blanks before they are read,
and an integer or a version is read no further than the blank behind it; so the first component
decides, if there is something to read in it.
-/
namespace Descriptor

namespace Text
variable {s r : List Char}

theorem trimStartSome : trimStart s ≠ [] ↔ ∃ c ∈ s, isBlank c = false := by
  simp [trimStart]

theorem trimStartBehind (visible : ∃ c ∈ s, isBlank c = false) (r : List Char) :
    trimStart (s ++ r) = trimStart s ++ r := by
  have some : ¬ (s.dropWhile isBlank).isEmpty := by simpa using visible
  rw [trimStart, List.dropWhile_append, if_neg some]
  rfl

theorem trimEndBehind (visible : ∀ c ∈ s.getLast?, isBlank c = false) (r : List Char) :
    trimEnd (s ++ r) = s ++ trimEnd r := by
  have stop : ∀ c ∈ s.reverse.head?, isBlank c = false := by
    rw [List.head?_reverse]
    exact visible
  have start : s.reverse.dropWhile isBlank = s.reverse := (noneTaken stop).2
  rw [trimEnd, List.reverse_append, List.dropWhile_append, start, trimEnd]
  split
  · rename_i none
    simp [List.isEmpty_iff.mp none]
  · simp

theorem trimBehind (some : trim s ≠ []) (blank : ∀ c ∈ r.head?, isBlank c) :
    ∃ more, trim (s ++ r) = trim s ++ more ∧ ∀ c ∈ more.head?, isBlank c := by
  have started : trimStart s ≠ [] := by
    intro none
    rw [trim, none] at some
    exact some rfl
  obtain ⟨gap, whole, blanks⟩ := trimEndWhole (trimStart s)
  have visible : ∀ c ∈ (trim s).getLast?, isBlank c = false := by
    intro c last
    have ends := List.rdropWhile_last_not isBlank (trimStart s) some
    have same : (trim s).getLast some = c := List.getLast_of_mem_getLast? last
    rw [← same]
    exact Bool.eq_false_iff.mpr ends
  refine ⟨trimEnd (gap ++ r), ?_, ?_⟩
  · rw [trim, trimStartBehind (trimStartSome.mp started), whole, List.append_assoc]
    exact trimEndBehind visible _
  · intro c head
    obtain ⟨rest, text, -⟩ := trimEndWhole (gap ++ r)
    have front : c ∈ (gap ++ r).head? := by
      rw [text]
      exact List.mem_head?_append_of_mem_head? head
    cases gap with
    | nil => exact blank c front
    | cons d gap =>
      obtain rfl : d = c := by simpa using front
      exact blanks d List.mem_cons_self

theorem splitFront {sep : Char} (s : List Char) :
    (split sep s).getD 0 [] = s.takeWhile (· ≠ sep) := by
  induction s with
  | nil => rfl
  | cons c s ih =>
    by_cases here : c = sep
    · simp [split, here]
    · rw [splitOther here, List.takeWhile_cons_of_pos (by simpa using here), ← ih]
      cases cut : split sep s with
      | nil => exact absurd cut (splitNotEmpty sep s)
      | cons part parts => rfl

end Text

namespace Decimal
open Text (isBlank trimStart)
variable {s r : List Char}

theorem notDigitOfBlank {c : Char} (blank : isBlank c) : isDigit c = false := by
  cases digit : isDigit c with
  | false => rfl
  | true => rw [digitNotBlank digit] at blank; contradiction

theorem digitsBehind (stop : ∀ c ∈ r.head?, isDigit c = false) (s : List Char) :
    (s ++ r).takeWhile isDigit = s.takeWhile isDigit := by
  rw [List.takeWhile_append, (Text.noneTaken stop).1, List.append_nil]
  split
  · rename_i all
    exact ((List.takeWhile_prefix isDigit).eq_of_length all).symm
  · rfl

theorem leadingUnsigned {c : Char} {rest : List Char} (start : trimStart s = c :: rest)
    (minus : c ≠ '-') (plus : c ≠ '+') :
    leading s = clamp (value ((c :: rest).takeWhile isDigit)) := by
  simp [leading, start, minus, plus]

theorem leadingBehind (visible : ∃ c ∈ s, isBlank c = false)
    (stop : ∀ c ∈ r.head?, isDigit c = false) :
    leading (s ++ r) = leading s := by
  have moved := Text.trimStartBehind visible r
  cases start : trimStart s with
  | nil => exact absurd start (Text.trimStartSome.mpr visible)
  | cons c rest =>
    rw [start] at moved
    by_cases minus : c = '-'
    · subst minus
      simp only [leading, moved, start, List.cons_append, digitsBehind stop]
    · by_cases plus : c = '+'
      · subst plus
        simp only [leading, moved, start, List.cons_append, digitsBehind stop]
      · rw [leadingUnsigned start minus plus, leadingUnsigned moved minus plus]
        exact congrArg (fun ds => clamp (value ds)) (digitsBehind stop (c :: rest))

end Decimal

namespace Version
open Text (isBlank split trim)
variable {s r : List Char}

theorem leadingParts {a b u : List Char} (trimmed : trim s = a ++ '.' :: (b ++ '.' :: u))
    (first : '.' ∉ a) (second : '.' ∉ b) :
    leading s = ⟨leadingNumber a, leadingNumber b, leadingNumber (u.takeWhile (· ≠ '.'))⟩ := by
  have parts : split '.' (trim s) = a :: b :: split '.' u := by
    rw [trimmed, Text.splitSeparated, Text.splitSeparated, Text.splitWhole first,
      Text.splitWhole second]
    rfl
  rw [← Text.splitFront, leading, parts]
  rfl

theorem leadingNumberBehind (digits : Digits s) (blank : ∀ c ∈ r.head?, isBlank c) :
    leadingNumber (s ++ r) = leadingNumber s := by
  obtain ⟨c, mem⟩ := List.exists_mem_of_ne_nil s digits.1
  have visible : ∃ c ∈ s, isBlank c = false := ⟨c, mem, Decimal.digitNotBlank (digits.2 c mem)⟩
  have stop : ∀ c ∈ r.head?, Decimal.isDigit c = false := fun c head =>
    Decimal.notDigitOfBlank (blank c head)
  rw [leadingNumber, Decimal.leadingBehind visible stop, leadingNumber]

theorem leadingBehind {v : Version} (read : read? s = some v) (blank : ∀ c ∈ r.head?, isBlank c) :
    leading (s ++ r) = leading s := by
  obtain ⟨a, b, c, joined, ⟨major, -⟩, ⟨minor, -⟩, ⟨patch, -⟩⟩ := readIff.mp read
  have trimmed : trim s = a ++ '.' :: (b ++ '.' :: c) := by
    rw [joined, Text.joinCons, Text.joinCons, Text.joinSingle]
  have some : trim s ≠ [] := by simp [trimmed]
  obtain ⟨more, behind, starts⟩ := Text.trimBehind some blank
  rw [trimmed] at behind
  have whole : trim (s ++ r) = a ++ '.' :: (b ++ '.' :: (c ++ more)) := by simpa using behind
  rw [leadingParts whole major.undotted minor.undotted,
    leadingParts trimmed major.undotted minor.undotted]
  have undotted : ∀ d ∈ c, decide (d ≠ '.') = true := by
    intro d mem
    simpa using fun dot : d = '.' => patch.undotted (dot ▸ mem)
  have third : c.takeWhile (· ≠ '.') = c := List.takeWhile_eq_self_iff.mpr undotted
  have starts' : ∀ d ∈ (more.takeWhile (· ≠ '.')).head?, isBlank d := by
    intro d head
    rw [List.head?_takeWhile] at head
    exact starts d (Option.filter_eq_some_iff.mp head).1
  rw [third, List.takeWhile_append_of_pos undotted, leadingNumberBehind patch starts']

end Version

namespace Value
open Text (isBlank)

def ReadAsInts (v w : Value) : Prop :=
  (v.kind = .int ∨ w.kind = .int) ∧ ∀ k ∈ [Kind.version, .float], v.kind ≠ k ∧ w.kind ≠ k
instance (v w) : Decidable (ReadAsInts v w) := by unfold ReadAsInts; infer_instance

def ReadAsVersions (v w : Value) : Prop := v.kind = .version ∨ w.kind = .version
instance (v w) : Decidable (ReadAsVersions v w) := by unfold ReadAsVersions; infer_instance

def LedByText (v : Value) : Prop :=
  ∃ s, v.components.head? = some s ∧ ∃ c ∈ s.toList, isBlank c = false

def LedByVersion (v : Value) : Prop :=
  ∃ s, v.components.head? = some s ∧ ∃ version, Version.read s = .ok version

theorem textFirst {v : Value} {s : String} (first : v.components.head? = some s) :
    ∃ r, v.text.toList = s.toList ++ r ∧ ∀ c ∈ r.head?, c = ' ' := by
  obtain ⟨kind, components⟩ := v
  obtain ⟨more, rfl⟩ := List.head?_eq_some_iff.mp first
  cases more with
  | nil => exact ⟨[], by simp [text, joined, Text.joinQuoted, Text.join, List.intercalate], by simp⟩
  | cons t more =>
    refine ⟨' ' :: Text.join ' ' ((t :: more).map String.toList), ?_, by simp⟩
    rw [text, joined, String.toList_ofList]
    exact Text.joinCons ..

theorem numberOfFirst {v : Value} {s : String} (first : v.components.head? = some s)
    (visible : ∃ c ∈ s.toList, isBlank c = false) :
    Decimal.leading v.text.toList = Decimal.leading s.toList := by
  obtain ⟨r, whole, blank⟩ := textFirst first
  have stop : ∀ c ∈ r.head?, Decimal.isDigit c = false := by
    intro c head
    rw [blank c head]
    decide
  rw [whole, Decimal.leadingBehind visible stop]

theorem versionOfFirst {v : Value} {s : String} (first : v.components.head? = some s)
    {version : Version} (accepted : Version.read s = .ok version) :
    Version.leading v.text.toList = Version.leading s.toList := by
  obtain ⟨r, whole, blank⟩ := textFirst first
  have blanks : ∀ c ∈ r.head?, isBlank c := by
    intro c head
    rw [blank c head]
    decide
  rw [whole, Version.leadingBehind (Version.readOkIff.mp accepted) blanks]

theorem relateInts {v w : Value} (ints : ReadAsInts v w) (r : Relation) :
    v.relate r w =
      r.holds (compare (Decimal.leading v.text.toList) (Decimal.leading w.text.toList)) := by
  obtain ⟨one, others⟩ := ints
  have between : Reading.between v w r.isEquality = .int := by
    simp only [List.forall_mem_cons] at others
    simp [Reading.between, one, others]
  rw [relate, between]
  rfl

theorem relateVersions {v w : Value} (versions : ReadAsVersions v w) (r : Relation) :
    v.relate r w =
      r.holds ((Version.leading v.text.toList).order (Version.leading w.text.toList)) := by
  have between : Reading.between v w r.isEquality = .version := by
    have either : (decide (v.kind = .version) || decide (w.kind = .version)) = true := by
      simpa [ReadAsVersions] using versions
    rw [Reading.between, if_pos either]
  rw [relate, between]
  rfl

structure FirstDecides (v : Value) (said : Value → Bool) : Prop where
  first : said v = said (v.component 0)
  more : ∀ w : Value, w.kind = v.kind → w.components.head? = v.components.head? → said w = said v

theorem firstDecides {α : Type} {v : Value} {s : String} (first : v.components.head? = some s)
    (key : String → α) (f : α → Bool) {said : Value → Bool}
    (told : ∀ w, w.kind = v.kind → said w = f (key w.text))
    (settled : ∀ w : Value, w.components.head? = some s → key w.text = key s) :
    FirstDecides v said where
  first := by
    have one : v.component 0 = single v.kind s := by
      rw [component, ← List.head?_eq_getElem?, first]
    rw [one, told v rfl, told (single v.kind s) rfl, settled v first, textSingle]
  more w kind head := by
    rw [told w kind, told v rfl, settled w (head.trans first), settled v first]

theorem ReadAsInts.alike {u v w : Value} (ints : ReadAsInts v w) (same : u.kind = v.kind) :
    ReadAsInts u w := by
  rwa [ReadAsInts, same]

theorem ReadAsInts.symm {v w : Value} (ints : ReadAsInts v w) : ReadAsInts w v :=
  ⟨ints.1.symm, fun k mem => (ints.2 k mem).symm⟩

theorem ReadAsVersions.alike {u v w : Value} (versions : ReadAsVersions v w)
    (same : u.kind = v.kind) : ReadAsVersions u w := by
  rwa [ReadAsVersions, same]

theorem ReadAsVersions.symm {v w : Value} (versions : ReadAsVersions v w) : ReadAsVersions w v :=
  Or.symm versions

theorem intsDecide {v : Value} (led : v.LedByText) (w : Value) (r : Relation) :
    (ReadAsInts v w → FirstDecides v (·.relate r w)) ∧
      (ReadAsInts w v → FirstDecides v (w.relate r ·)) := by
  obtain ⟨s, first, visible⟩ := led
  have settled (u : Value) (head : u.components.head? = some s) :
      Decimal.leading u.text.toList = Decimal.leading s.toList := numberOfFirst head visible
  constructor
  · intro ints
    refine firstDecides first (fun t => Decimal.leading t.toList)
      (fun n => r.holds (compare n (Decimal.leading w.text.toList))) ?_ settled
    exact fun u same => relateInts (ints.alike same) r
  · intro ints
    refine firstDecides first (fun t => Decimal.leading t.toList)
      (fun n => r.holds (compare (Decimal.leading w.text.toList) n)) ?_ settled
    exact fun u same => relateInts (ints.symm.alike same).symm r

theorem versionsDecide {v : Value} (led : v.LedByVersion) (w : Value) (r : Relation) :
    (ReadAsVersions v w → FirstDecides v (·.relate r w)) ∧
      (ReadAsVersions w v → FirstDecides v (w.relate r ·)) := by
  obtain ⟨s, first, version, accepted⟩ := led
  have settled (u : Value) (head : u.components.head? = some s) :
      Version.leading u.text.toList = Version.leading s.toList := versionOfFirst head accepted
  constructor
  · intro versions
    refine firstDecides first (fun t => Version.leading t.toList)
      (fun n => r.holds (n.order (Version.leading w.text.toList))) ?_ settled
    exact fun u same => relateVersions (versions.alike same) r
  · intro versions
    refine firstDecides first (fun t => Version.leading t.toList)
      (fun n => r.holds ((Version.leading w.text.toList).order n)) ?_ settled
    exact fun u same => relateVersions (versions.symm.alike same).symm r

theorem truthDecides {v : Value} (led : v.LedByText) (int : v.kind = .int) :
    FirstDecides v isTrue := by
  obtain ⟨s, first, visible⟩ := led
  refine firstDecides first (fun t => Decimal.leading t.toList) (· ≠ 0) ?_
    fun u head => numberOfFirst head visible
  intro u same
  rw [isTrue, same, int]

theorem firstComponentDecides (r : Relation) (a b : Value) :
    (ReadAsInts a b → (a.LedByText → FirstDecides a (·.relate r b)) ∧
      (b.LedByText → FirstDecides b (a.relate r ·))) ∧
    (ReadAsVersions a b → (a.LedByVersion → FirstDecides a (·.relate r b)) ∧
      (b.LedByVersion → FirstDecides b (a.relate r ·))) ∧
    (a.kind = .int → a.LedByText → FirstDecides a isTrue) := by
  refine ⟨?_, ?_, fun int led => truthDecides led int⟩
  · intro ints
    exact ⟨fun led => (intsDecide led b r).1 ints, fun led => (intsDecide led a r).2 ints⟩
  · intro versions
    exact ⟨fun led => (versionsDecide led b r).1 versions,
      fun led => (versionsDecide led a r).2 versions⟩

theorem firstComponentDecidesOfLists :
    FirstDecides ⟨.int, [" -", "7"]⟩ (·.relate .eq (string "0")) ∧
      FirstDecides ⟨.string, ["1.2.3 ", ".4", "9"]⟩ ((version ⟨1, 2, 4⟩).relate .gt ·) ∧
      FirstDecides ⟨.int, [" -", "7"]⟩ isTrue := by
  refine ⟨?_, ?_, ?_⟩
  · exact ((firstComponentDecides .eq ⟨.int, [" -", "7"]⟩ (string "0")).1 (by decide)).1
      ⟨" -", rfl, '-', by decide, by decide⟩
  · exact ((firstComponentDecides .gt (version ⟨1, 2, 4⟩) ⟨.string, ["1.2.3 ", ".4", "9"]⟩).2.1
      (by decide)).2 ⟨"1.2.3 ", rfl, ⟨1, 2, 3⟩, by decide +kernel⟩
  · exact (firstComponentDecides .eq ⟨.int, [" -", "7"]⟩ (string "0")).2.2 rfl
      ⟨" -", rfl, '-', by decide, by decide⟩

/- A version that is not complete goes on in the next component. -/
example : relate ⟨.version, ["1.2", "3.4"]⟩ .eq (version ⟨1, 2, 4⟩) ∧
    (component ⟨.version, ["1.2", "3.4"]⟩ 0).relate .eq (version ⟨1, 2, 4⟩) = false := by
  decide +kernel

end Value
end Descriptor
