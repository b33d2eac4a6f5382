import Descriptor.Text.CharClass
/-!
Blank characters and the cutting of them from the ends of a text. Blank means the Unicode property
White_Space: 25 characters, among them the line ends, the no-break space and the ideographic space.
-/
namespace Descriptor.Text

def blank : CharClass where
  ranges :=
    [(0x09, 0x0D), (0x20, 0x20), (0x85, 0x85), (0xA0, 0xA0), (0x1680, 0x1680), (0x2000, 0x200A),
     (0x2028, 0x2029), (0x202F, 0x202F), (0x205F, 0x205F), (0x3000, 0x3000)]

example : blank.size = 25 := by decide

def isBlank (c : Char) : Bool :=
  blank.has c

def trimStart (s : List Char) : List Char :=
  s.dropWhile isBlank

def trimEnd (s : List Char) : List Char :=
  (s.reverse.dropWhile isBlank).reverse

def trim (s : List Char) : List Char :=
  trimEnd (trimStart s)

theorem noneTaken {p : Char → Bool} {s : List Char} (stop : ∀ c ∈ s.head?, p c = false) :
    s.takeWhile p = [] ∧ s.dropWhile p = s := by
  cases s with
  | nil => exact ⟨rfl, rfl⟩
  | cons c s => simp [stop c rfl]

theorem takenUntil {p : Char → Bool} {s r : List Char} (taken : ∀ c ∈ s, p c)
    (stop : ∀ c ∈ r.head?, p c = false) :
    (s ++ r).takeWhile p = s ∧ (s ++ r).dropWhile p = r := by
  obtain ⟨none, all⟩ := noneTaken stop
  rw [List.takeWhile_append_of_pos taken, List.dropWhile_append_of_pos taken, none, all,
    List.append_nil]
  exact ⟨rfl, rfl⟩

theorem stoppedBehind (p : Char → Bool) (s : List Char) :
    ∀ c ∈ (s.dropWhile p).head?, p c = false := by
  intro c first
  have stop := List.head?_dropWhile_not p s
  rw [Option.mem_def.mp first] at stop
  exact stop

theorem trimStartSelf {s : List Char} (visible : ∀ c ∈ s, isBlank c = false) :
    trimStart s = s := by
  cases s with
  | nil => rfl
  | cons c s => simp [trimStart, visible c List.mem_cons_self]

theorem trimSelf {s : List Char} (visible : ∀ c ∈ s, isBlank c = false) : trim s = s := by
  have reversed : ∀ c ∈ s.reverse, isBlank c = false := fun c mem =>
    visible c (List.mem_reverse.mp mem)
  have kept : s.reverse.dropWhile isBlank = s.reverse := trimStartSelf reversed
  rw [trim, trimStartSelf visible, trimEnd, kept, List.reverse_reverse]

theorem trimBetween {before after : List Char} (front : ∀ c ∈ before, isBlank c)
    (behind : ∀ c ∈ after, isBlank c) (s : List Char) : trim (before ++ s ++ after) = trim s := by
  have start : trimStart (before ++ s ++ after) = trimStart (s ++ after) := by
    rw [List.append_assoc, trimStart, List.dropWhile_append_of_pos front, trimStart]
  have last (t : List Char) : trimEnd (t ++ after) = trimEnd t := by
    rw [trimEnd, List.reverse_append,
      List.dropWhile_append_of_pos fun c mem => behind c (List.mem_reverse.mp mem), trimEnd]
  rw [trim, start, trim, trimStart, List.dropWhile_append]
  split
  · rename_i none
    have nothing : (after ++ []).dropWhile isBlank = [] := List.dropWhile_append_of_pos behind
    rw [List.append_nil] at nothing
    rw [nothing, trimStart, List.isEmpty_iff.mp none]
  · exact last _

theorem trimEndWhole (s : List Char) :
    ∃ after, s = trimEnd s ++ after ∧ ∀ c ∈ after, isBlank c := by
  refine ⟨(s.reverse.takeWhile isBlank).reverse, ?_, ?_⟩
  · rw [trimEnd, ← List.reverse_append, List.takeWhile_append_dropWhile, List.reverse_reverse]
  · intro c mem
    exact List.all_eq_true.mp List.all_takeWhile c (List.mem_reverse.mp mem)

theorem trimWhole (s : List Char) : ∃ before after,
    s = before ++ trim s ++ after ∧ (∀ c ∈ before, isBlank c) ∧ ∀ c ∈ after, isBlank c := by
  obtain ⟨after, ends, behind⟩ := trimEndWhole (trimStart s)
  refine ⟨s.takeWhile isBlank, after, ?_, List.all_eq_true.mp List.all_takeWhile, behind⟩
  rw [trim, List.append_assoc, ← ends, trimStart, List.takeWhile_append_dropWhile]

theorem memTrim {s : List Char} {c : Char} (mem : c ∈ trim s) : c ∈ s := by
  obtain ⟨before, after, whole, -, -⟩ := trimWhole s
  rw [whole]
  simp [mem]

theorem trimTwice (s : List Char) : trim (trim s) = trim s := by
  obtain ⟨before, after, whole, front, behind⟩ := trimWhole s
  have same := trimBetween front behind (trim s)
  rw [← whole] at same
  exact same.symm

end Descriptor.Text
