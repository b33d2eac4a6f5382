import Descriptor.Binary64.Reader
import Descriptor.Proofs.Encoding
/-!
Floating point numbers at the beginning of a text. Of all beginnings that a reader takes for a number
the longest one counts. A machine finds it from the end: it steps back byte by byte, passes over the
places inside a character, and cuts the text at the others until the part in front is a number.
-/
namespace Descriptor.Binary64
open Text (trim)

def Reads (reader : List Char → Option Binary64) (s : List Char) (x : Binary64) : Prop :=
  reader s = some x ∧ x.isNaN = false

inductive Longest (reader : List Char → Option Binary64) (s : List Char) : Binary64 → Prop
  | found {p : List Char} {x : Binary64} (start : p <+: s) (read : Reads reader p x)
      (longest : ∀ q y, q <+: s → Reads reader q y → bytes q ≤ bytes p) : Longest reader s x
  | nothing (none : ∀ q y, q <+: s → ¬ Reads reader q y) : Longest reader s zero

def numberBy (reader : List Char → Option Binary64) (s : List Char) : Option Binary64 :=
  (reader s).filter (!·.isNaN)

/- Looks for a number that ends before `stop`. Nothing comes of a cut inside a character, nor of too
few rounds. -/
def backOff (reader : List Char → Option Binary64) (s : List Char) : Nat → Nat → Option Binary64
  | 0, _ => none
  | _ + 1, 0 => some zero
  | rounds + 1, stop + 1 =>
    if edge s stop then do
      let start ← between? 0 stop s
      match numberBy reader start with
      | some x => some x
      | none => backOff reader s rounds stop
    else backOff reader s rounds stop

def loopBy (reader : List Char → Option Binary64) (rounds : Nat) (s : List Char) : Option Binary64 :=
  match numberBy reader (trim s) with
  | some x => some x
  | none => backOff reader (trim s) rounds (bytes (trim s))

theorem edgePrefix {s : List Char} {n : Nat} : edge s n ↔ ∃ p, p <+: s ∧ bytes p = n := by
  rw [edgeIff]
  constructor
  · rintro ⟨r, cut⟩
    obtain ⟨p, rfl, size⟩ := behindBytesIff.mp cut
    exact ⟨p, List.prefix_append p r, size⟩
  · rintro ⟨p, ⟨r, rfl⟩, size⟩
    exact ⟨r, behindBytesIff.mpr ⟨p, rfl, size⟩⟩

section
variable {reader : List Char → Option Binary64} {s : List Char}

theorem numberIff {x : Binary64} : numberBy reader s = some x ↔ Reads reader s x := by
  rw [numberBy, Option.filter_eq_some_iff, Reads, Bool.not_eq_true']

theorem noNumber {x : Binary64} (none : numberBy reader s = none) : ¬ Reads reader s x := by
  intro read
  rw [numberIff.mpr read] at none
  cases none

theorem longestUnique {x y : Binary64} (one : Longest reader s x) (other : Longest reader s y) :
    x = y := by
  cases one with
  | @found p _ start read longest =>
    cases other with
    | @found q _ start' read' longest' =>
      have size : bytes p = bytes q := Nat.le_antisymm (longest' p x start read) (longest q y start' read')
      obtain rfl := samePrefix start start' size
      exact Option.some.inj (read.1.symm.trans read'.1)
    | nothing none => exact absurd read (none p x start)
  | nothing none =>
    cases other with
    | found start read longest => exact absurd read (none _ y start)
    | nothing => rfl

theorem memPrefixes {p : List Char} : p ∈ prefixes s ↔ p <+: s := by
  simp only [prefixes, List.mem_map, List.mem_reverse, List.mem_range]
  constructor
  · rintro ⟨n, -, rfl⟩
    exact List.take_prefix n s
  · intro start
    exact ⟨p.length, Nat.lt_succ_of_le start.length_le, (List.prefix_iff_eq_take.mp start).symm⟩

theorem prefixesFall (s : List Char) : (prefixes s).Pairwise fun p q => bytes q ≤ bytes p := by
  rw [prefixes, List.pairwise_map, List.pairwise_reverse]
  refine List.pairwise_lt_range.imp fun less => ?_
  exact bytesPrefix (List.take_prefix_take_left (Nat.le_of_lt less))

theorem leadingLongest (reader : List Char → Option Binary64) (s : List Char) :
    Longest reader (trim s) (leadingBy reader s) := by
  change Longest reader (trim s) (((prefixes (trim s)).findSome? (numberBy reader)).getD zero)
  cases search : (prefixes (trim s)).findSome? (numberBy reader) with
  | none =>
    have none := List.findSome?_eq_none_iff.mp search
    exact .nothing fun q y start => noNumber (none q (memPrefixes.mpr start))
  | some x =>
    obtain ⟨longer, p, shorter, all, number, none⟩ := List.findSome?_eq_some_iff.mp search
    have falls := prefixesFall (trim s)
    rw [all, List.pairwise_append, List.pairwise_cons] at falls
    have start : p <+: trim s := memPrefixes.mp (by simp [all])
    refine .found start (numberIff.mp number) fun q y start' read => ?_
    have mem := memPrefixes.mpr start'
    rw [all, List.mem_append, List.mem_cons] at mem
    obtain before | rfl | behind := mem
    · exact absurd read (noNumber (none q before))
    · exact Nat.le_refl _
    · exact falls.2.1.1 q behind

theorem backOffLongest {rounds stop : Nat} (enough : stop < rounds)
    (passed : ∀ q y, q <+: s → stop ≤ bytes q → ¬ Reads reader q y) :
    ∃ x, backOff reader s rounds stop = some x ∧ Longest reader s x := by
  induction stop generalizing rounds with
  | zero =>
    obtain ⟨rounds, rfl⟩ := Nat.exists_eq_add_one_of_ne_zero (Nat.ne_of_gt enough)
    exact ⟨zero, rfl, .nothing fun q y start => passed q y start (Nat.zero_le _)⟩
  | succ stop ih =>
    obtain ⟨rounds, rfl⟩ := Nat.exists_eq_add_one_of_ne_zero (Nat.ne_of_gt (Nat.zero_lt_of_lt enough))
    have more : stop < rounds := Nat.lt_of_succ_lt_succ enough
    have next (here : ∀ q y, q <+: s → bytes q = stop → ¬ Reads reader q y) :=
      ih more fun q y start size => by
        obtain same | beyond := Nat.eq_or_lt_of_le size
        · exact here q y start same.symm
        · exact passed q y start beyond
    rw [backOff]
    split
    · rename_i inside
      obtain ⟨p, start, rfl⟩ := edgePrefix.mp inside
      rw [cutPrefix start, Option.bind_eq_bind, Option.bind_some]
      cases number : numberBy reader p with
      | some x =>
        refine ⟨x, rfl, .found start (numberIff.mp number) fun q y start' read => ?_⟩
        exact Nat.le_of_not_lt fun beyond => passed q y start' beyond read
      | none =>
        refine next fun q y start' size => ?_
        rw [samePrefix start' start size]
        exact noNumber number
    · rename_i between
      exact next fun q y start size => absurd (edgePrefix.mpr ⟨q, start, size⟩) between

theorem loopLongest (reader : List Char → Option Binary64) {rounds : Nat}
    (enough : bytes (trim s) < rounds) :
    ∃ x, loopBy reader rounds s = some x ∧ Longest reader (trim s) x := by
  rw [loopBy]
  cases number : numberBy reader (trim s) with
  | some x => exact ⟨x, rfl, .found List.prefix_rfl (numberIff.mp number) fun q y start _ => bytesPrefix start⟩
  | none =>
    refine backOffLongest enough fun q y start size => ?_
    rw [samePrefix start List.prefix_rfl (Nat.le_antisymm (bytesPrefix start) size)]
    exact noNumber number

end

theorem longestPrefixRead (reader : List Char → Option Binary64) (s : List Char) :
    (∀ x, Longest reader (trim s) x ↔ x = leadingBy reader s) ∧
    (leadingBy reader s).isNaN = false ∧
    ∀ more, loopBy reader (bytes (trim s) + 1 + more) s = some (leadingBy reader s) := by
  have longest := leadingLongest reader s
  refine ⟨fun x => ⟨fun other => longestUnique other longest, fun same => same ▸ longest⟩,
    leadingByNumber reader s, fun more => ?_⟩
  have enough : bytes (trim s) < bytes (trim s) + 1 + more := by omega
  obtain ⟨x, loop, found⟩ := loopLongest reader enough
  rw [loop, longestUnique found longest]

example : loopBy read? 6 " 1e€ ".toList = some (nearest false 1 1) := by decide +kernel

end Descriptor.Binary64
