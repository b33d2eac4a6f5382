import Descriptor.Proofs.Observation
import Descriptor.Proofs.Substitution
/-!
Writing calls so that they are read back. A quoted text with a backslash before each of the three
special characters stands for itself wherever a text with embedded calls may stand, whatever other
characters it has in it; so any name, index and parameters can be written as a call.
-/
namespace Descriptor
open Scan
open Text (isBlank)

def masked (s : List Char) : List Char :=
  s.flatMap fun c => if isSpecial c then ['\\', c] else [c]

def quote (s : List Char) : List Char :=
  '\'' :: masked s ++ ['\'']

def writtenIndex : Option Nat → List Char
  | some n => '[' :: Decimal.digits n ++ [']']
  | none => []

def Identifier.written (id : Identifier) : List Char :=
  quote id.name.toList ++ writtenIndex id.index

def Parameter.written (p : Parameter) : List Char :=
  '-' :: quote p.option.toList ++
    match p.value with
    | some v => ':' :: quote v.toList
    | none => []

def writtenCall (id : Identifier) (ps : Parameters) : List Char :=
  '$' :: '(' :: id.written ++ ps.flatMap (' ' :: ·.written) ++ [')']

namespace Grammar

variable {W : Type} {exec : Exec (StateM W)}

theorem specialListed {c : Char} (special : isSpecial c) : (c, c) ∈ escapes := by
  obtain rfl | rfl | rfl : c = '\'' ∨ c = '\\' ∨ c = '$' := by simpa using isSpecialIff.mp special
  · decide
  · decide
  · decide

theorem maskedPieces (s : List Char) (w : W) : Pieces exec .quoted w (masked s) s w := by
  induction s with
  | nil => exact .nil
  | cons c s ih =>
    have head : Piece exec .quoted w (if isSpecial c then ['\\', c] else [c]) [c] w := by
      split
      · rename_i special
        exact .escape (specialListed special)
      · rename_i ordinary
        have other : c ∉ ['\'', '\\', '$'] := fun mem => ordinary (isSpecialIff.mpr mem)
        exact .plain other
    exact .cons head ih

theorem quotePieces {place : Place} (outside : place ≠ .quoted) (s : List Char) (w : W) :
    Pieces exec place w (quote s) s w :=
  (Piece.quoted outside (maskedPieces s w)).alone

theorem digitsIndex {n : Nat} (small : n < UInt64.size) : Index (Decimal.digits n) n := by
  have digit {c : Char} (mem : c ∈ Decimal.digits n) : Decimal.isDigit c :=
    Decimal.isDigitOfMem mem
  refine ⟨fun mem => absurd (digit mem) (by decide), [], Decimal.digits n, ?_, .inl rfl,
    Decimal.digitsNotEmpty n, fun c => digit, Decimal.valueDigits n, small⟩
  rw [List.nil_append]
  exact Text.trimSelf fun c mem => Decimal.digitNotBlank (digit mem)

theorem writtenParam (p : Parameter) (w : W) : Param exec w p.written p w := by
  obtain ⟨option, value⟩ := p
  have named : Pieces exec .option w (quote option.toList) option.toList w :=
    quotePieces (by decide) _ w
  cases value with
  | none =>
    have read := Param.bare named
    rw [String.ofList_toList] at read
    simpa [Parameter.written] using read
  | some v =>
    have valued : Pieces exec .value w (quote v.toList) v.toList w := quotePieces (by decide) _ w
    have read := Param.valued named valued
    rw [String.ofList_toList, String.ofList_toList] at read
    exact read

theorem writtenParams (first : Bool) (ps : Parameters) (w : W) :
    Params exec first w (ps.flatMap (' ' :: ·.written) ++ [')']) ps w := by
  induction ps generalizing first with
  | nil => exact @Params.close _ _ _ _ [] .nil
  | cons p ps ih =>
    have gap : Blanks [' '] := Blanks.nil.cons (by decide)
    have read : Params exec first w
        ([' '] ++ p.written ++ (ps.flatMap (' ' :: ·.written) ++ [')'])) (p :: ps) w :=
      .more gap (by simp) (writtenParam p w) (ih false)
    simpa using read

theorem writtenBracket {i : Option Nat} (small : ∀ n ∈ i, n < UInt64.size) :
    Bracket (writtenIndex i) i := by
  cases i with
  | none => exact .none
  | some n => exact .some (digitsIndex (small n rfl))

theorem writtenCallAnswers {id : Identifier} (named : id.name ≠ "")
    (small : ∀ n ∈ id.index, n < UInt64.size) (ps : Parameters) (w : W) :
    perform (Scan.call exec (writtenCall id ps).tail) w =
      let (answer, w') := perform (exec id ps) w
      ((answer.mapError .failure, (writtenCall id ps).tail.length), w') := by
  have given : id.name.toList ≠ [] := fun none => named (String.toList_eq_nil_iff.mp none)
  have name : Pieces exec .name w (quote id.name.toList) id.name.toList w :=
    quotePieces (by decide) _ w
  have read := callAnswers .nil name given .nil (writtenBracket small) (writtenParams true ps w) []
  have body : '(' :: [] ++ quote id.name.toList ++ [] ++ writtenIndex id.index ++
      (ps.flatMap (' ' :: ·.written) ++ [')']) = (writtenCall id ps).tail := by
    simp [writtenCall, Identifier.written]
  rwa [String.ofList_toList, List.append_nil, body] at read

theorem callRoundTrip (exec : Exec (StateM W)) (id : Identifier) (ps : Parameters)
    (named : id.name ≠ "") (small : ∀ n ∈ id.index, n < UInt64.size)
    (log : List (Identifier × Parameters)) (w : W) :
    ∃ body, writtenCall id ps = '$' :: body ∧
      perform (Scan.call exec body) w =
        (((perform (exec id ps) w).1.mapError .failure, body.length), (perform (exec id ps) w).2) ∧
      perform (Scan.call (Tokenizer.logged exec) body) (log, w) =
        (((perform (exec id ps) w).1.mapError .failure, body.length),
          (log ++ [(id, ps)], (perform (exec id ps) w).2)) := by
  refine ⟨(writtenCall id ps).tail, rfl, writtenCallAnswers named small ps w, ?_⟩
  rw [writtenCallAnswers named small ps (log, w)]
  rfl

theorem callRoundTripOfMetacharacters :
    ∃ body, writtenCall ⟨"a[1]'$(", some 18446744073709551615⟩
        [⟨"", some ") -:"⟩, ⟨"\\", none⟩] = '$' :: body ∧
      perform (Scan.call ownNames body) () = ((.ok (.string "a[1]'$("), body.length), ()) ∧
      perform (Scan.call (Tokenizer.logged ownNames) body) ([], ()) =
        ((.ok (.string "a[1]'$("), body.length),
          ([(⟨"a[1]'$(", some 18446744073709551615⟩, [⟨"", some ") -:"⟩, ⟨"\\", none⟩])], ())) :=
  callRoundTrip ownNames _ _ (by decide) (by decide) [] ()

end Grammar
end Descriptor
