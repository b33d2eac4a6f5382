import Descriptor.Definition
import Descriptor.Proofs.Separation
/-!
Definitions as they are written on a command line. The first equals sign and the first colon before
it cut a definition into name, kind and value, whatever separators come later; so what is written
with its kind is read back, and the kind may be left out where it is that of strings.
-/
namespace Descriptor.Definition
open Text (join pieces splitFirst trim)

def written (d : Definition) : String :=
  d.name ++ ":" ++ d.value.kind.name ++ "=" ++ d.value.text

/- A definition that can be written: the name is not cut anywhere, the kind has a name to be read by,
and the components are told apart by the spaces between them. -/
structure Plain (d : Definition) : Prop where
  named : d.name ≠ ""
  trimmed : trim d.name.toList = d.name.toList
  equalsFree : '=' ∉ d.name.toList
  colonFree : ':' ∉ d.name.toList
  known : d.value.kind ≠ .unknown
  pieces : ∀ s ∈ d.value.components, s ≠ "" ∧ ' ' ∉ s.toList

variable {text : String} {before after name s : List Char} {kind : Kind} {d : Definition}

theorem knownOfName {type : String} (found : Kind.ofName? type = some kind) : kind ≠ .unknown := by
  rintro rfl
  have listed := List.mem_of_find?_eq_some found
  exact absurd listed (by decide)

theorem nameSeparators (kind : Kind) : '=' ∉ kind.name.toList ∧ ':' ∉ kind.name.toList := by
  cases kind <;> decide

theorem leftUntyped (free : ':' ∉ s) : left text s = .ok (s, .string) := by
  rw [left, Text.splitFirstNone.mpr free]

theorem leftTyped {type : List Char} (free : ':' ∉ name)
    (found : Kind.ofName? (String.ofList type) = some kind) :
    left text (name ++ ':' :: type) = .ok (name, kind) := by
  simp only [left, Text.splitFirstIff.mpr ⟨rfl, free⟩, found]

theorem leftGives (front : left text s = .ok (name, kind)) :
    ':' ∉ name ∧ (∀ c ∈ name, c ∈ s) ∧ kind ≠ .unknown := by
  cases cut : splitFirst ':' s with
  | none =>
    have free := Text.splitFirstNone.mp cut
    rw [leftUntyped free] at front
    cases front
    exact ⟨free, fun c mem => mem, by decide⟩
  | some parts =>
    obtain ⟨first, type⟩ := parts
    obtain ⟨rfl, free⟩ := Text.splitFirstIff.mp cut
    cases found : Kind.ofName? (String.ofList type) with
    | none =>
      simp only [left, cut, found] at front
      cases front
    | some known =>
      rw [leftTyped free found] at front
      cases front
      exact ⟨free, fun c mem => List.mem_append_left _ mem, knownOfName found⟩

theorem readCut (whole : text.toList = before ++ '=' :: after) (free : '=' ∉ before) :
    read text = (left text before).bind fun front =>
      if trim front.1 = [] then .error (.emptyName text)
      else .ok ⟨String.ofList (trim front.1), .ofPieces front.2 (String.ofList after) ' '⟩ := by
  have cut : splitFirst '=' text.toList = some (before, after) := Text.splitFirstIff.mpr ⟨whole, free⟩
  simp only [read, cut]
  cases left text before with
  | error e => rfl
  | ok front =>
    by_cases none : trim front.1 = []
    · simp [bind, Except.bind, none]
      rfl
    · simp [bind, Except.bind, none]
      rfl

theorem readPlain (plain : Plain d) : read (written d) = .ok d := by
  obtain ⟨name, value⟩ := d
  obtain ⟨equalsFree, -⟩ := nameSeparators value.kind
  have whole : (written ⟨name, value⟩).toList =
      (name.toList ++ ':' :: value.kind.name.toList) ++ '=' :: value.text.toList := by
    simp [written]
  have free : '=' ∉ name.toList ++ ':' :: value.kind.name.toList := by
    simpa [equalsFree] using plain.equalsFree
  have found : Kind.ofName? (String.ofList value.kind.name.toList) = some value.kind := by
    rw [String.ofList_toList, Kind.ofNameBack plain.known]
  have some : name.toList ≠ [] := by simpa using plain.named
  have back : Value.ofPieces value.kind value.text ' ' = value :=
    (Value.ofPiecesJoinedIff value ' ').mpr plain.pieces
  have trimmed : trim name.toList = name.toList := plain.trimmed
  rw [readCut whole free, leftTyped plain.colonFree found]
  simp only [Except.bind, trimmed, if_neg some, String.ofList_toList, back]

theorem readGives (found : read text = .ok d) : ∃ before after name, '=' ∉ before ∧
    left text before = .ok (name, d.value.kind) ∧ trim name ≠ [] ∧
    d = ⟨String.ofList (trim name), .ofPieces d.value.kind (String.ofList after) ' '⟩ := by
  cases cut : splitFirst '=' text.toList with
  | none =>
    simp only [read, cut] at found
    cases found
  | some parts =>
    obtain ⟨before, after⟩ := parts
    obtain ⟨whole, free⟩ := Text.splitFirstIff.mp cut
    rw [readCut whole free] at found
    cases front : left text before with
    | error e =>
      rw [front] at found
      cases found
    | ok parts =>
      obtain ⟨name, kind⟩ := parts
      rw [front] at found
      simp only [Except.bind] at found
      split at found
      · cases found
      · rename_i some
        cases found
        exact ⟨before, after, name, free, front, some, rfl⟩

theorem plainOfRead (found : read text = .ok d) : Plain d := by
  obtain ⟨before, after, name, free, front, some, same⟩ := readGives found
  obtain ⟨colonFree, inside, known⟩ := leftGives front
  have named : d.name.toList = trim name := by rw [same, String.toList_ofList]
  constructor
  case named =>
    rw [← named] at some
    simpa using some
  case trimmed => rw [named, Text.trimTwice]
  case equalsFree =>
    rw [named]
    exact fun mem => free (inside _ (Text.memTrim mem))
  case colonFree =>
    rw [named]
    exact fun mem => colonFree (Text.memTrim mem)
  case known => exact known
  case pieces =>
    intro s mem
    rw [same] at mem
    obtain ⟨part, piece, rfl⟩ := List.mem_map.mp mem
    obtain ⟨full, single⟩ := Text.memPieces piece
    exact ⟨by simpa using full, by rwa [String.toList_ofList]⟩

inductive Alike : Except DefinitionError Definition → Except DefinitionError Definition → Prop
  | ok (d : Definition) : Alike (.ok d) (.ok d)
  | missingEquals (s t : String) : Alike (.error (.missingEquals s)) (.error (.missingEquals t))
  | emptyName (s t : String) : Alike (.error (.emptyName s)) (.error (.emptyName t))
  | unknownType (k l s t : String) : Alike (.error (.unknownType k s)) (.error (.unknownType l t))

theorem stringsAlike {lhs : String} (t : String) (equalsFree : '=' ∉ lhs.toList)
    (colonFree : ':' ∉ lhs.toList) :
    Alike (read (lhs ++ "=" ++ t)) (read (lhs ++ ":string=" ++ t)) := by
  have short : (lhs ++ "=" ++ t).toList = lhs.toList ++ '=' :: t.toList := by simp
  have long : (lhs ++ ":string=" ++ t).toList =
      (lhs.toList ++ ':' :: "string".toList) ++ '=' :: t.toList := by
    simp
  have free : '=' ∉ lhs.toList ++ ':' :: "string".toList := by simpa using equalsFree
  have found : Kind.ofName? (String.ofList "string".toList) = some .string := by decide
  rw [readCut short equalsFree, readCut long free, leftUntyped colonFree, leftTyped colonFree found]
  simp only [Except.bind]
  split
  · exact .emptyName ..
  · exact .ok _

theorem definitionsRoundTrip :
    (∀ d, Plain d → read (written d) = .ok d) ∧
    (∀ text d, read text = .ok d → read (written d) = .ok d) ∧
    ∀ lhs t : String, '=' ∉ lhs.toList → ':' ∉ lhs.toList →
      Alike (read (lhs ++ "=" ++ t)) (read (lhs ++ ":string=" ++ t)) := by
  refine ⟨fun d => readPlain, ?_, fun lhs t => stringsAlike t⟩
  intro text d found
  exact readPlain (plainOfRead found)

theorem definitionsRoundTripOfSeparators :
    read (written ⟨"a b", ⟨.int, ["=1", "x:y="]⟩⟩) = .ok ⟨"a b", ⟨.int, ["=1", "x:y="]⟩⟩ ∧
      read (written ⟨"n", ⟨.version, ["1", "2"]⟩⟩) = .ok ⟨"n", ⟨.version, ["1", "2"]⟩⟩ ∧
      Alike (read "a b=:=") (read "a b:string=:=") ∧ Alike (read " =x") (read " :string=x") := by
  obtain ⟨back, again, alike⟩ := definitionsRoundTrip
  have spaced : read "\tn :version= 1  2" = .ok ⟨"n", ⟨.version, ["1", "2"]⟩⟩ := by rfl
  have plain : Plain ⟨"a b", ⟨.int, ["=1", "x:y="]⟩⟩ :=
    ⟨by decide, by decide, by decide, by decide, by decide, by decide⟩
  refine ⟨back _ plain, again _ _ spaced, ?_, ?_⟩
  · exact alike "a b" ":=" (by decide) (by decide)
  · exact alike " " "x" (by decide) (by decide)

end Descriptor.Definition
