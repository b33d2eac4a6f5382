import Descriptor.Value
/-!
Cutting a text at a separator and joining parts with it. Joining puts the pieces of the parts one
behind the other, whatever separators the parts hold themselves; so a value is read back from its
joined text exactly if no component of it is empty or holds the separator.
-/
namespace Descriptor

namespace Text
variable {sep c : Char} {s t part : List Char}

theorem splitOther (other : c ≠ sep) : split sep (c :: s) = (split sep s).modifyHead (c :: ·) := by
  rw [split, if_neg other]
  cases cut : split sep s with
  | nil => exact absurd cut (splitNotEmpty sep s)
  | cons part parts => rfl

theorem splitSeparated (sep : Char) (s t : List Char) :
    split sep (s ++ sep :: t) = split sep s ++ split sep t := by
  induction s with
  | nil => simp [split]
  | cons c s ih =>
    by_cases here : c = sep
    · subst here
      simp [split, ih]
    · rw [List.cons_append, splitOther here, splitOther here, ih]
      cases cut : split sep s with
      | nil => exact absurd cut (splitNotEmpty sep s)
      | cons part parts => rfl

theorem piecesSeparated (sep : Char) (s t : List Char) :
    pieces sep (s ++ sep :: t) = pieces sep s ++ pieces sep t := by
  rw [pieces, splitSeparated, List.filter_append, pieces, pieces]

theorem joinCons (sep : Char) (part next : List Char) (parts : List (List Char)) :
    join sep (part :: next :: parts) = part ++ sep :: join sep (next :: parts) := by
  simp [join, List.intercalate]

theorem joinSingle (sep : Char) (part : List Char) : join sep [part] = part := by
  simp [join, List.intercalate]

theorem memJoin {parts : List (List Char)} (mem : c ∈ join sep parts) :
    c = sep ∨ ∃ part ∈ parts, c ∈ part := by
  induction parts with
  | nil => cases mem
  | cons part parts ih =>
    cases parts with
    | nil =>
      rw [joinSingle] at mem
      exact .inr ⟨part, List.mem_cons_self, mem⟩
    | cons next parts =>
      rw [joinCons, List.mem_append, List.mem_cons] at mem
      obtain here | rfl | more := mem
      · exact .inr ⟨part, List.mem_cons_self, here⟩
      · exact .inl rfl
      · exact (ih more).imp_right fun ⟨other, there, inside⟩ =>
          ⟨other, List.mem_cons_of_mem part there, inside⟩

theorem piecesJoin (sep : Char) (parts : List (List Char)) :
    pieces sep (join sep parts) = parts.flatMap (pieces sep) := by
  induction parts with
  | nil => rfl
  | cons part parts ih =>
    cases parts with
    | nil => simp [joinSingle]
    | cons next parts =>
      rw [joinCons, piecesSeparated, ih]
      exact List.flatMap_cons.symm

theorem memPieces (mem : part ∈ pieces sep s) : part ≠ [] ∧ sep ∉ part := by
  obtain ⟨cut, some⟩ := List.mem_filter.mp mem
  exact ⟨by simpa using some, memSplit cut⟩

theorem flattenSplit (sep : Char) (s : List Char) : (split sep s).flatten = s.filter (· ≠ sep) := by
  induction s with
  | nil => rfl
  | cons c s ih =>
    by_cases here : c = sep
    · subst here
      simp [split, ih]
    · rw [splitOther here, List.filter_cons_of_pos (by simpa using here), ← ih]
      cases cut : split sep s with
      | nil => exact absurd cut (splitNotEmpty sep s)
      | cons part parts => rfl

theorem flattenPieces (sep : Char) (s : List Char) :
    (pieces sep s).flatten = s.filter (· ≠ sep) := by
  rw [pieces, List.flatten_filter_not_isEmpty, flattenSplit]

theorem splitWhole (free : sep ∉ s) : split sep s = [s] := by
  induction s with
  | nil => rfl
  | cons c s ih =>
    obtain ⟨other, more⟩ : c ≠ sep ∧ sep ∉ s := by simpa [eq_comm] using free
    rw [splitOther other, ih more]
    rfl

theorem splitJoin {parts : List (List Char)} (some : parts ≠ [])
    (free : ∀ part ∈ parts, sep ∉ part) : split sep (join sep parts) = parts := by
  induction parts with
  | nil => contradiction
  | cons part parts ih =>
    obtain ⟨first, others⟩ := List.forall_mem_cons.mp free
    cases parts with
    | nil => rw [joinSingle, splitWhole first]
    | cons next parts =>
      rw [joinCons, splitSeparated, splitWhole first, ih (List.cons_ne_nil next parts) others]
      rfl

theorem splitFirstIff {before after : List Char} :
    splitFirst sep s = some (before, after) ↔ s = before ++ sep :: after ∧ sep ∉ before := by
  induction s generalizing before with
  | nil => simp [splitFirst]
  | cons c s ih =>
    rw [splitFirst]
    by_cases here : c = sep
    · subst here
      cases before <;> simp +contextual [eq_comm]
    · rw [if_neg here]
      cases before with
      | nil => simp [here]
      | cons d before =>
        simp only [Option.map_eq_some_iff, Prod.exists, Prod.mk.injEq, List.cons_append,
          List.cons.injEq]
        constructor
        · rintro ⟨front, back, cut, ⟨rfl, rfl⟩, rfl⟩
          obtain ⟨rfl, free⟩ := ih.mp cut
          exact ⟨⟨rfl, rfl⟩, by simpa using ⟨Ne.symm here, free⟩⟩
        · rintro ⟨⟨rfl, rfl⟩, free⟩
          exact ⟨before, after, ih.mpr ⟨rfl, fun mem => free (List.mem_cons_of_mem c mem)⟩,
            ⟨rfl, rfl⟩, rfl⟩

theorem splitFirstNone : splitFirst sep s = none ↔ sep ∉ s := by
  induction s with
  | nil => simp [splitFirst]
  | cons c s ih =>
    rw [splitFirst]
    by_cases here : c = sep
    · simp [here]
    · simp [here, Ne.symm here, ih]

theorem piecesWhole (some : part ≠ []) (free : sep ∉ part) : pieces sep part = [part] := by
  rw [pieces, splitWhole free]
  simpa using some

theorem piecesAllIff {parts : List (List Char)} :
    parts.flatMap (pieces sep) = parts ↔ ∀ part ∈ parts, part ≠ [] ∧ sep ∉ part := by
  constructor
  · intro same part mem
    rw [← same] at mem
    obtain ⟨whole, -, piece⟩ := List.mem_flatMap.mp mem
    exact memPieces piece
  · intro whole
    induction parts with
    | nil => rfl
    | cons part parts ih =>
      obtain ⟨⟨some, free⟩, more⟩ := List.forall_mem_cons.mp whole
      rw [List.flatMap_cons, piecesWhole some free, ih more, List.singleton_append]

end Text

namespace Value
open Text

theorem ofPiecesJoined (kind : Kind) (v : Value) (sep : Char) :
    ofPieces kind (v.joined sep none) sep =
      ⟨kind, ((v.components.map String.toList).flatMap (pieces sep)).map String.ofList⟩ := by
  simp [ofPieces, joined, joinQuoted, piecesJoin]

theorem listsOfPieces (kind : Kind) (s : String) (sep : Char) :
    (ofPieces kind s sep).components.map String.toList = pieces sep s.toList := by
  simp [ofPieces, Function.comp_def]

theorem piecesKept (kind : Kind) (s : String) (sep : Char) :
    ofPieces kind ((ofPieces kind s sep).joined sep none) sep = ofPieces kind s sep := by
  have whole : (pieces sep s.toList).flatMap (pieces sep) = pieces sep s.toList :=
    piecesAllIff.mpr fun _ => memPieces
  rw [ofPiecesJoined, listsOfPieces, whole, ofPieces]

theorem ofPiecesJoinedIff (v : Value) (sep : Char) :
    ofPieces v.kind (v.joined sep none) sep = v ↔
      ∀ s ∈ v.components, s ≠ "" ∧ sep ∉ s.toList := by
  obtain ⟨kind, components⟩ := v
  have lists : (components.map String.toList).map String.ofList = components := by
    simp [Function.comp_def]
  have same : ofPieces kind (joined ⟨kind, components⟩ sep none) sep = ⟨kind, components⟩ ↔
      (components.map String.toList).flatMap (pieces sep) = components.map String.toList := by
    rw [ofPiecesJoined, mk.injEq]
    constructor
    · intro read
      have back := congrArg (List.map String.toList) read.2
      simpa [Function.comp_def] using back
    · intro cut
      exact ⟨rfl, by rw [cut, lists]⟩
  rw [same, piecesAllIff]
  simp

theorem splitJoinAdjoint (sep : Char) :
    (∀ parts, pieces sep (joinQuoted sep none parts) = parts.flatMap (pieces sep)) ∧
    (∀ s, (∀ part ∈ pieces sep s, part ≠ [] ∧ sep ∉ part) ∧
      (pieces sep s).flatten = s.filter (· ≠ sep)) ∧
    (∀ kind s, ofPieces kind ((ofPieces kind s sep).joined sep none) sep = ofPieces kind s sep) ∧
    ∀ v : Value, ofPieces v.kind (v.joined sep none) sep = v ↔
      ∀ s ∈ v.components, s ≠ "" ∧ sep ∉ s.toList := by
  refine ⟨piecesJoin sep, ?_, ?_, ?_⟩
  · intro s
    exact ⟨fun _ => memPieces, flattenPieces sep s⟩
  · intro kind s
    exact piecesKept kind s sep
  · intro v
    exact ofPiecesJoinedIff v sep

theorem splitJoinOfUneven :
    pieces 'é' (joinQuoted 'é' none ["aéb".toList, [], "éc".toList]) =
      ["aéb".toList, [], "éc".toList].flatMap (pieces 'é') ∧
    ofPieces .int (joined ⟨.int, ["aéb", "", "éc"]⟩ 'é' none) 'é' ≠ ⟨.int, ["aéb", "", "éc"]⟩ ∧
    ofPieces .int (joined ⟨.int, ["a", "b", "c"]⟩ 'é' none) 'é' = ⟨.int, ["a", "b", "c"]⟩ := by
  obtain ⟨joined, -, -, back⟩ := splitJoinAdjoint 'é'
  refine ⟨joined _, ?_, (back ⟨.int, ["a", "b", "c"]⟩).mpr (by decide)⟩
  intro same
  exact absurd ((back ⟨.int, ["aéb", "", "éc"]⟩).mp same) (by decide)

end Value
end Descriptor
