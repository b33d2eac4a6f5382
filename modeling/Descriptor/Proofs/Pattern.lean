import Descriptor.Value
/-!
Patterns of whole texts. A pattern is made of runs of characters of a class, one pattern behind
another or in its place, and it can keep what a part of it stands for.
-/
namespace Descriptor.Text

inductive Pattern
  | run (least : Nat) (most : Option Nat) (has : Char → Bool)
  | seq (p q : Pattern)
  | alt (p q : Pattern)
  | keep (p : Pattern)

namespace Pattern

def one (c : Char) : Pattern := run 1 (some 1) (· = c)

def exactly (n : Nat) (has : Char → Bool) : Pattern := run n (some n) has

/- The whole text is of the pattern, and what is kept of it are these parts, in their order. -/
def Matches : Pattern → List Char → List (List Char) → Prop
  | run least most has, s, kept =>
    kept = [] ∧ least ≤ s.length ∧ (∀ n ∈ most, s.length ≤ n) ∧ ∀ c ∈ s, has c
  | seq p q, s, kept =>
    ∃ t u l m, s = t ++ u ∧ kept = l ++ m ∧ p.Matches t l ∧ q.Matches u m
  | alt p q, s, kept => p.Matches s kept ∨ q.Matches s kept
  | keep p, s, kept => ∃ inner, kept = s :: inner ∧ p.Matches s inner

variable {p : Pattern} {s : List Char} {kept : List (List Char)} {has : Char → Bool}

theorem exactlyIff {n : Nat} :
    (exactly n has).Matches s kept ↔ kept = [] ∧ s.length = n ∧ ∀ c ∈ s, has c := by
  simp only [exactly, Matches, Option.mem_some_iff, forall_eq']
  constructor
  · rintro ⟨none, least, most, all⟩
    exact ⟨none, Nat.le_antisymm most least, all⟩
  · rintro ⟨none, rfl, all⟩
    exact ⟨none, Nat.le_refl _, Nat.le_refl _, all⟩

theorem oneIff {c : Char} : (one c).Matches s kept ↔ kept = [] ∧ s = [c] := by
  have single : (one c).Matches s kept ↔ (exactly 1 (· = c)).Matches s kept := Iff.rfl
  rw [single, exactlyIff]
  constructor
  · rintro ⟨none, length, all⟩
    obtain ⟨d, rfl⟩ := List.length_eq_one_iff.mp length
    exact ⟨none, by simpa using all⟩
  · rintro ⟨none, rfl⟩
    exact ⟨none, rfl, by simp⟩

theorem manyIff {least : Nat} :
    (run least none has).Matches s kept ↔ kept = [] ∧ least ≤ s.length ∧ ∀ c ∈ s, has c := by
  simp [Matches]

theorem behindIff {q : Pattern} (plain : ∀ t l, p.Matches t l → l = []) :
    (seq p q).Matches s kept ↔ ∃ t u, s = t ++ u ∧ p.Matches t [] ∧ q.Matches u kept := by
  constructor
  · rintro ⟨t, u, l, m, rfl, rfl, first, second⟩
    obtain rfl := plain t l first
    exact ⟨t, u, rfl, first, second⟩
  · rintro ⟨t, u, rfl, first, second⟩
    exact ⟨t, u, [], kept, rfl, rfl, first, second⟩

theorem behindOne {q : Pattern} {c : Char} :
    (seq (one c) q).Matches s kept ↔ ∃ u, s = c :: u ∧ q.Matches u kept := by
  rw [behindIff fun t l first => (oneIff.mp first).1]
  constructor
  · rintro ⟨t, u, rfl, first, more⟩
    obtain ⟨-, rfl⟩ := oneIff.mp first
    exact ⟨u, rfl, more⟩
  · rintro ⟨u, rfl, more⟩
    exact ⟨[c], u, rfl, oneIff.mpr ⟨rfl, rfl⟩, more⟩

theorem behindExactly {q : Pattern} {n : Nat} : (seq (exactly n has) q).Matches s kept ↔
    ∃ t u, s = t ++ u ∧ (t.length = n ∧ ∀ c ∈ t, has c) ∧ q.Matches u kept := by
  rw [behindIff fun t l first => (exactlyIff.mp first).1]
  simp [exactlyIff]

theorem behindMany {q : Pattern} {least : Nat} : (seq (run least none has) q).Matches s kept ↔
    ∃ t u, s = t ++ u ∧ (least ≤ t.length ∧ ∀ c ∈ t, has c) ∧ q.Matches u kept := by
  rw [behindIff fun t l first => (manyIff.mp first).1]
  simp [manyIff]

theorem behindKept {q : Pattern} {least : Nat} :
    (seq (keep (run least none has)) q).Matches s kept ↔
      ∃ t u m, s = t ++ u ∧ kept = t :: m ∧ (least ≤ t.length ∧ ∀ c ∈ t, has c) ∧ q.Matches u m := by
  constructor
  · rintro ⟨t, u, l, m, rfl, rfl, ⟨inner, rfl, first⟩, second⟩
    obtain ⟨rfl, all⟩ := manyIff.mp first
    exact ⟨t, u, m, rfl, rfl, all, second⟩
  · rintro ⟨t, u, m, rfl, rfl, all, second⟩
    exact ⟨t, u, [t], m, rfl, rfl, ⟨[], rfl, manyIff.mpr ⟨rfl, all⟩⟩, second⟩

end Pattern
end Descriptor.Text
