/-!
Texts cut at places that are numbers of bytes in UTF-8. That works at the edges of characters alone.
-/
namespace Descriptor

def bytes (s : List Char) : Nat := (String.ofList s).utf8ByteSize

/- The text behind its first `n` bytes, if these are whole characters. -/
def behindBytes? (n : Nat) : List Char → Option (List Char)
  | [] => if n = 0 then some [] else none
  | c :: s =>
    if n = 0 then some (c :: s)
    else if c.utf8Size ≤ n then behindBytes? (n - c.utf8Size) s
    else none

def between? (start stop : Nat) (s : List Char) : Option (List Char) := do
  let tail ← behindBytes? start s
  let rest ← behindBytes? stop s
  if start ≤ stop then some (tail.take (tail.length - rest.length)) else none

theorem bytesCons (c : Char) (s : List Char) : bytes (c :: s) = c.utf8Size + bytes s := by
  rw [bytes, String.ofList_cons, String.utf8ByteSize_append, String.utf8ByteSize_singleton, bytes]

theorem bytesAppend (s t : List Char) : bytes (s ++ t) = bytes s + bytes t := by
  rw [bytes, String.ofList_append, String.utf8ByteSize_append, bytes, bytes]

theorem bytesSuffix {s whole : List Char} (inside : s <:+ whole) : bytes s ≤ bytes whole := by
  obtain ⟨before, rfl⟩ := inside
  rw [bytesAppend]
  exact Nat.le_add_left _ _

theorem bytesPrefix {p s : List Char} (start : p <+: s) : bytes p ≤ bytes s := by
  obtain ⟨r, rfl⟩ := start
  rw [bytesAppend]
  exact Nat.le_add_right _ _

theorem behindBytesAppend (before s : List Char) :
    behindBytes? (bytes before) (before ++ s) = some s := by
  induction before with
  | nil => cases s <;> rfl
  | cons c before ih =>
    have positive := c.utf8Size_pos
    rw [bytesCons, List.cons_append, behindBytes?, if_neg (by omega),
      if_pos (Nat.le_add_right _ _), Nat.add_sub_cancel_left, ih]

theorem behindBytesIff {n : Nat} {s r : List Char} :
    behindBytes? n s = some r ↔ ∃ before, s = before ++ r ∧ bytes before = n := by
  constructor
  · intro cut
    induction s generalizing n with
    | nil =>
      rw [behindBytes?] at cut
      split at cut
      · rename_i zero
        cases cut
        exact ⟨[], rfl, zero.symm⟩
      · cases cut
    | cons c s ih =>
      rw [behindBytes?] at cut
      split at cut
      · rename_i zero
        cases cut
        exact ⟨[], rfl, zero.symm⟩
      · split at cut
        · rename_i fits
          obtain ⟨before, rfl, size⟩ := ih cut
          exact ⟨c :: before, rfl, by rw [bytesCons]; omega⟩
        · cases cut
  · rintro ⟨before, rfl, rfl⟩
    exact behindBytesAppend before r

theorem cutValid {n : Nat} {s r : List Char} (cut : behindBytes? n s = some r) :
    String.Pos.Raw.IsValid (String.ofList s) ⟨n⟩ := by
  obtain ⟨before, rfl, rfl⟩ := behindBytesIff.mp cut
  exact String.Pos.Raw.isValid_iff_exists_append.mpr
    ⟨String.ofList before, String.ofList r, String.ofList_append, rfl⟩

theorem behindBytesSuffix {s whole : List Char} (inside : s <:+ whole) :
    behindBytes? (bytes whole - bytes s) whole = some s := by
  obtain ⟨before, rfl⟩ := inside
  rw [bytesAppend, Nat.add_sub_cancel]
  exact behindBytesAppend before s

theorem betweenAppend (before s r : List Char) :
    between? (bytes before) (bytes (before ++ s)) (before ++ s ++ r) = some s := by
  have start : behindBytes? (bytes before) (before ++ s ++ r) = some (s ++ r) := by
    rw [List.append_assoc]
    exact behindBytesAppend before (s ++ r)
  have ordered : bytes before ≤ bytes (before ++ s) := by
    rw [bytesAppend]
    exact Nat.le_add_right _ _
  rw [between?, start, behindBytesAppend]
  simp [ordered]

theorem cutPrefix {p s : List Char} (start : p <+: s) : between? 0 (bytes p) s = some p := by
  obtain ⟨r, rfl⟩ := start
  exact betweenAppend [] p r

theorem samePrefix {p q s : List Char} (one : p <+: s) (other : q <+: s) (size : bytes p = bytes q) :
    p = q := by
  have cut := cutPrefix one
  rw [size, cutPrefix other] at cut
  exact (Option.some.inj cut).symm

end Descriptor
