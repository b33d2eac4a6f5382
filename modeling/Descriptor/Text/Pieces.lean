/-!
Cutting a text at a separator and joining parts with it. The pieces of a text are the parts between
separators that are not empty.
-/
namespace Descriptor.Text

def split (sep : Char) : List Char → List (List Char)
  | [] => [[]]
  | c :: rest =>
    if c = sep then [] :: split sep rest
    else match split sep rest with
      | [] => [[c]]
      | part :: parts => (c :: part) :: parts

def pieces (sep : Char) (s : List Char) : List (List Char) :=
  (split sep s).filter (!·.isEmpty)

def join (sep : Char) (parts : List (List Char)) : List Char :=
  [sep].intercalate parts

def joinQuoted (sep : Char) (quote : Option Char) (parts : List (List Char)) : List Char :=
  match quote with
  | some q => if parts.length > 1 then q :: join sep parts ++ [q] else join sep parts
  | none => join sep parts

def splitFirst (sep : Char) : List Char → Option (List Char × List Char)
  | [] => none
  | c :: rest =>
    if c = sep then some ([], rest)
    else (splitFirst sep rest).map fun (before, after) => (c :: before, after)

theorem splitNotEmpty (sep : Char) (s : List Char) : split sep s ≠ [] := by
  cases s with
  | nil => simp [split]
  | cons c rest => rw [split]; split <;> (try split) <;> simp

theorem memSplit {sep : Char} {s part : List Char} (h : part ∈ split sep s) : sep ∉ part := by
  induction s generalizing part with
  | nil => simp_all [split]
  | cons c rest ih =>
    rw [split] at h
    split at h
    · rcases List.mem_cons.1 h with rfl | h
      · simp
      · exact ih h
    · rename_i hc
      split at h
      · rename_i hs; exact absurd hs (splitNotEmpty sep rest)
      · rename_i p ps hs
        rw [hs] at ih
        rcases List.mem_cons.1 h with rfl | h
        · have := ih (List.mem_cons_self ..)
          simp [this, Ne.symm hc]
        · exact ih (List.mem_cons_of_mem _ h)

theorem joinSplit (sep : Char) (s : List Char) : join sep (split sep s) = s := by
  induction s with
  | nil => rfl
  | cons c rest ih =>
    rw [split]
    split
    · rename_i hc
      subst hc
      cases hs : split c rest with
      | nil => exact absurd hs (splitNotEmpty c rest)
      | cons p ps => rw [hs] at ih; simp [join, List.intercalate, List.intersperse] at ih ⊢; exact ih
    · split
      · rename_i hs; exact absurd hs (splitNotEmpty sep rest)
      · rename_i p ps hs
        rw [hs] at ih
        cases ps <;> simp_all [join, List.intercalate, List.intersperse]

end Descriptor.Text
