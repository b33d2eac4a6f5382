import Mathlib.Data.List.Lex
import Mathlib.Data.List.TakeWhile
import Mathlib.Data.String.Basic
import Descriptor.Proofs.Comparison
import Descriptor.Proofs.Versions
/-!
Values keep the order of what they are made of. Integers, versions, truth values and identifiers are
stored as text, and comparison gets back from the text what was written into it, up to the ends of
each range; it does so as well where one of the two sides is a string that holds only the text.
-/
namespace Descriptor

namespace Relation
variable {α : Type}

def Between [LT α] [LE α] : Relation → α → α → Prop
  | eq, x, y => x = y
  | ne, x, y => x ≠ y
  | lt, x, y => x < y
  | gt, x, y => y < x
  | le, x, y => x ≤ y
  | ge, x, y => y ≤ x

theorem holdsIffBetween [LinearOrder α] {o : Ordering} {x y : α} (compared : o.Compares x y)
    (r : Relation) : r.holds o ↔ r.Between x y := by
  cases r with
  | eq => exact Ordering.isEq_iff_eq_eq.trans compared.eq_eq
  | ne => exact Ordering.isNe_iff_ne_eq.trans (not_congr compared.eq_eq)
  | lt => exact Ordering.isLT_iff_eq_lt.trans compared.eq_lt
  | gt => exact Ordering.isGT_iff_eq_gt.trans compared.eq_gt
  | le => exact Ordering.isLE_iff_ne_gt.trans compared.ne_gt
  | ge => exact Ordering.isGE_iff_ne_lt.trans compared.ne_lt

end Relation

theorem comparesCompare {α : Type} [LinearOrder α] (x y : α) : (compare x y).Compares x y :=
  (compare_iff x y).mp rfl

theorem comparesTexts {α β : Type} [LinearOrder β] (form : α → String) (key : α → β)
    (rises : ∀ {a b}, key a < key b → form a < form b)
    (equal : ∀ {a b}, key a = key b → form a = form b) (a b : α) :
    (compare (form a) (form b)).Compares (key a) (key b) := by
  refine (Ordering.compares_iff_of_compares_impl ?_ _).mpr (comparesCompare (form a) (form b))
  intro o compared
  cases o with
  | lt => exact rises compared
  | eq => exact equal compared
  | gt => exact rises compared

theorem comparesThen {α : Type} [LinearOrder α] {o p : Ordering} {x y : α} {s t : List α}
    (heads : o.Compares x y) (tails : p.Compares s t) : (o.then p).Compares (x :: s) (y :: t) := by
  cases o with
  | lt => exact List.cons_lt_cons_iff.mpr (.inl heads)
  | gt => exact List.cons_lt_cons_iff.mpr (.inl heads)
  | eq =>
    obtain rfl : x = y := heads
    cases p with
    | lt => exact List.cons_lt_cons_iff.mpr (.inr ⟨rfl, tails⟩)
    | gt => exact List.cons_lt_cons_iff.mpr (.inr ⟨rfl, tails⟩)
    | eq => exact congrArg (x :: ·) tails

namespace Decimal
open Text (isBlank trimStart)

theorem leadingDigits (n : Nat) : leading (digits n) = clamp n := by
  rw [leadingOfDigits fun c => isDigitOfMem, valueDigits]

theorem leadingNegated (n : Nat) : leading ('-' :: digits n) = clamp (-n) := by
  have all : (digits n).takeWhile isDigit = digits n :=
    List.takeWhile_eq_self_iff.mpr fun c => isDigitOfMem
  have start : trimStart ('-' :: digits n) = '-' :: digits n := rfl
  simp only [leading, start, all, valueDigits]

theorem leadingText {n : Int} (low : least ≤ n) (high : n ≤ greatest) : leading (text n) = n := by
  unfold text
  split
  · have negated : -(n.natAbs : Int) = n := by omega
    rw [leadingNegated, negated, clampSelf low high]
  · have same : (n.natAbs : Int) = n := by omega
    rw [leadingDigits, same, clampSelf low high]

end Decimal

namespace Version

def numbers (v : Version) : List Nat := [v.major.toNat, v.minor.toNat, v.patch.toNat]

theorem orderCompares (v w : Version) : (v.order w).Compares v.numbers w.numbers := by
  have last : (compare v.patch.toNat w.patch.toNat).Compares [v.patch.toNat] [w.patch.toNat] := by
    have one := comparesThen (comparesCompare v.patch.toNat w.patch.toNat)
      (show Ordering.eq.Compares [] [] from rfl)
    rwa [Ordering.then_eq] at one
  exact comparesThen (comparesCompare _ _) (comparesThen (comparesCompare _ _) last)

end Version

namespace Guid

def numbers (g : Guid) : List Nat := g.bytes.map UInt8.toNat

def hex (n : Nat) : List Char := [nibble (n / 16), nibble (n % 16)]

theorem textOfNumbers (g : Guid) : g.text = g.numbers.flatMap hex := by
  simp [text, numbers, hex, List.flatMap_map]

theorem nibbleRises {m n : Nat} (less : m < n) (small : n < 16) : nibble m < nibble n := by
  have all : ∀ j < 16, ∀ i < j, nibble i < nibble j := by decide
  exact all n small m less

theorem hexRises {m n : Nat} {s t : List Char} (less : m < n) (small : n < 256) :
    hex m ++ s < hex n ++ t := by
  simp only [hex, List.cons_append, List.nil_append]
  obtain high | ⟨high, low⟩ : m / 16 < n / 16 ∨ m / 16 = n / 16 ∧ m % 16 < n % 16 := by omega
  · exact List.cons_lt_cons_iff.mpr (.inl (nibbleRises high (by omega)))
  · rw [high]
    exact List.cons_lt_cons_iff.mpr (.inr ⟨rfl,
      List.cons_lt_cons_iff.mpr (.inl (nibbleRises low (by omega)))⟩)

theorem textRises {s t : List Nat} (lengths : s.length = t.length) (bytes : ∀ n ∈ t, n < 256)
    (less : s < t) : s.flatMap hex < t.flatMap hex := by
  induction s generalizing t with
  | nil =>
    obtain rfl : t = [] := List.length_eq_zero_iff.mp lengths.symm
    exact absurd less (lt_irrefl _)
  | cons m s ih =>
    cases t with
    | nil => cases lengths
    | cons n t =>
      obtain ⟨small, more⟩ := List.forall_mem_cons.mp bytes
      rw [List.flatMap_cons, List.flatMap_cons]
      rcases List.cons_lt_cons_iff.mp less with head | ⟨rfl, tail⟩
      · exact hexRises head small
      · have behind := ih (Nat.succ.inj lengths) more tail
        simp only [hex, List.cons_append, List.nil_append]
        exact List.cons_lt_cons_iff.mpr (.inr ⟨rfl, List.cons_lt_cons_iff.mpr (.inr ⟨rfl, behind⟩)⟩)

theorem numbersSmall (g : Guid) : ∀ n ∈ g.numbers, n < 256 := by
  intro n mem
  obtain ⟨b, -, rfl⟩ := List.mem_map.mp mem
  exact b.toNat_lt

theorem numbersLength (g h : Guid) : g.numbers.length = h.numbers.length := by
  simp [numbers, g.bytesLength, h.bytesLength]

theorem textLess {g h : Guid} (less : g.numbers < h.numbers) :
    String.ofList g.text < String.ofList h.text := by
  rw [String.lt_iff_toList_lt, String.toList_ofList, String.toList_ofList, textOfNumbers,
    textOfNumbers]
  exact textRises (numbersLength g h) h.numbersSmall less

theorem textEqual {g h : Guid} (equal : g.numbers = h.numbers) :
    String.ofList g.text = String.ofList h.text := by
  rw [textOfNumbers, textOfNumbers, equal]

end Guid

namespace Value
variable {α β : Type}

structure ComparedBy [LT β] [LE β] (make : α → Value) (key : α → β) : Prop where
  typed : ∀ r a b, (make a).relate r (make b) ↔ r.Between (key a) (key b)
  left : ∀ r a b, (string (make a).text).relate r (make b) ↔ r.Between (key a) (key b)
  right : ∀ r a b, (make a).relate r (string (make b).text) ↔ r.Between (key a) (key b)

theorem comparedBy [LinearOrder β] {kind : Kind} {form : α → String} {key : α → β}
    (orders : ∀ equality a b,
      ((Reading.ranked kind.rank equality).order (form a) (form b)).Compares (key a) (key b)) :
    ComparedBy (fun a => single kind (form a)) key := by
  have read (r : Relation) (k l : Kind) (rank : max k.rank l.rank = kind.rank) (a b : α) :
      (single k (form a)).relate r (single l (form b)) ↔ r.Between (key a) (key b) := by
    have between : Reading.between (single k (form a)) (single l (form b)) r.isEquality =
        Reading.ranked kind.rank r.isEquality := by
      rw [Reading.betweenRanked]
      exact congrArg (Reading.ranked · r.isEquality) rank
    rw [relate, between, textSingle, textSingle]
    exact Relation.holdsIffBetween (orders r.isEquality a b) r
  constructor
  case typed =>
    intro r a b
    exact read r kind kind (Nat.max_self _) a b
  case left =>
    intro r a b
    rw [textSingle]
    exact read r .string kind (Nat.max_eq_right (Nat.zero_le _)) a b
  case right =>
    intro r a b
    rw [textSingle]
    exact read r kind .string (Nat.max_eq_left (Nat.zero_le _)) a b

theorem intCompared : ComparedBy int Int64.toInt := by
  apply comparedBy
  intro equality a b
  have back (n : Int64) : Decimal.leading (String.ofList (Decimal.text n.toInt)).toList = n.toInt := by
    rw [String.toList_ofList]
    exact Decimal.leadingText n.le_toInt (Int.le_of_lt_add_one n.toInt_lt)
  change (compare (Decimal.leading _) (Decimal.leading _)).Compares _ _
  rw [back, back]
  exact comparesCompare _ _

theorem versionCompared : ComparedBy version Version.numbers := by
  apply comparedBy
  intro equality v w
  change ((Version.leading _).order (Version.leading _)).Compares _ _
  rw [String.toList_ofList, String.toList_ofList, Version.leadingText, Version.leadingText]
  exact v.orderCompares w

theorem boolCompared : ComparedBy bool id := by
  apply comparedBy
  intro equality a b
  cases equality with
  | true =>
    -- Equality is that of texts, and `false` stands before `true` as a text too.
    refine comparesTexts (fun b => if b then "true" else "false") id ?_ ?_ a b
    · decide
    · decide
  | false =>
    have back (b : Bool) : ((if b then "true" else "false") == "true") = b := by
      cases b <;> rfl
    change (compare (_ == "true") (_ == "true")).Compares _ _
    rw [back, back]
    exact comparesCompare a b

theorem guidCompared : ComparedBy guid Guid.numbers := by
  apply comparedBy
  intro equality g h
  have texts : Reading.ranked Kind.guid.rank equality = .text := by cases equality <;> rfl
  rw [texts, Reading.order]
  exact comparesTexts (String.ofList ∘ Guid.text) Guid.numbers Guid.textLess Guid.textEqual g h

theorem typedCompareAsMade : ComparedBy int Int64.toInt ∧ ComparedBy version Version.numbers ∧
    ComparedBy bool id ∧ ComparedBy guid Guid.numbers :=
  ⟨intCompared, versionCompared, boolCompared, guidCompared⟩

end Value
end Descriptor
