import Descriptor.Proofs.Quoting
import Descriptor.Proofs.Separation
/-!
Lists inside the language. One call joins the components of a symbol, a call around it cuts them
apart again, and the value of the symbol comes out, whatever text its components hold. What a call
gives becomes part of the parameter that it stands in and is not scanned again.
-/
namespace Descriptor
open Scan

def writtenOption (option : String) (value : List Char) : List Char :=
  ' ' :: '-' :: option.toList ++ ':' :: value

def writtenJoin (name : String) (sep : Char) : List Char :=
  "$(join".toList ++ (writtenOption "name" (quote name.toList) ++
    (writtenOption "separator" (quote [sep]) ++ [')']))

def writtenRejoin (kind : Kind) (name : String) (sep : Char) : List Char :=
  "$(value".toList ++ (writtenOption "type" kind.name.toList ++
    (writtenOption "value" (writtenJoin name sep) ++
      (writtenOption "separator" (quote [sep]) ++ [')'])))

example : writtenRejoin .int "it's" ')' =
    "$(value -type:int -value:$(join -name:'it\\'s' -separator:')') -separator:')')".toList := by
  decide +kernel

def joinParameters (name : String) (sep : Char) : Parameters :=
  [⟨"name", some name⟩, ⟨"separator", some (String.ofList [sep])⟩]

def valueParameters (kind : Kind) (text : String) (sep : Char) : Parameters :=
  [⟨"type", some kind.name⟩, ⟨"value", some text⟩, ⟨"separator", some (String.ofList [sep])⟩]

namespace Grammar

variable {W : Type} {exec : Exec (StateM W)}

def Place.keeps (place : Place) (s : List Char) : Bool :=
  s.all fun c => !place.ends c && !isSpecial c

theorem keptPieces {place : Place} {s : List Char} (kept : place.keeps s) (w : W) :
    Pieces exec place w s s w := by
  induction s with
  | nil => exact .nil
  | cons c s ih =>
    obtain ⟨first, more⟩ : (place.ends c = false ∧ isSpecial c = false) ∧ place.keeps s := by
      simpa [Place.keeps] using kept
    exact .cons (.plain ((plainIff place c).mpr first)) (ih more)

theorem plainCall (name : String) (kept : Place.name.keeps name.toList) (given : name ≠ "")
    {s : List Char} {ps : Parameters} {v : Value} {w w₁ w₂ : W} (params : Params exec true w s ps w₁)
    (answer : perform (exec ⟨name, none⟩ ps) w₁ = (.ok v, w₂)) :
    Call exec w ('$' :: '(' :: name.toList ++ s) v w₂ := by
  have some : name.toList ≠ [] := fun none => given (String.toList_eq_nil_iff.mp none)
  have answer' : perform (exec ⟨String.ofList name.toList, none⟩ ps) w₁ = (.ok v, w₂) := by
    rwa [String.ofList_toList]
  have called := Call.mk .nil (keptPieces kept w) some .nil .none params answer'
  simpa using called

theorem plainOption (option : String) (kept : Place.option.keeps option.toList) (first : Bool)
    {s x s' : List Char} {ps : Parameters} {w w₁ w₂ : W} (value : Pieces exec .value w s x w₁)
    (rest : Params exec false w₁ s' ps w₂) :
    Params exec first w (writtenOption option s ++ s')
      (⟨option, some (String.ofList x)⟩ :: ps) w₂ := by
  have gap : Blanks [' '] := Blanks.nil.cons (by decide)
  have param := Param.valued (keptPieces kept w) value
  rw [String.ofList_toList] at param
  have read : Params exec first w ([' '] ++ ('-' :: option.toList ++ ':' :: s) ++ s')
      (⟨option, some (String.ofList x)⟩ :: ps) w₂ := .more gap (by simp) param rest
  simpa [writtenOption] using read

theorem separatorOnly (sep : Char) (w : W) :
    Params exec false w (writtenOption "separator" (quote [sep]) ++ [')'])
      [⟨"separator", some (String.ofList [sep])⟩] w :=
  plainOption "separator" (by decide +kernel) false (quotePieces (by decide) [sep] w)
    (@Params.close _ _ _ _ [] .nil)

variable {name : String} {sep : Char} {w w₁ w₂ : W}

theorem joinDerived {v : Value}
    (answer : perform (exec ⟨"join", none⟩ (joinParameters name sep)) w = (.ok v, w₁)) :
    Call exec w (writtenJoin name sep) v w₁ := by
  have named : Params exec true w _ [⟨"name", some (String.ofList name.toList)⟩, _] w :=
    plainOption "name" (by decide +kernel) true (quotePieces (by decide) name.toList w)
      (separatorOnly sep w)
  rw [String.ofList_toList] at named
  exact plainCall "join" (by decide +kernel) (by decide) named answer

theorem kindKept (kind : Kind) : Place.value.keeps kind.name.toList := by
  cases kind <;> decide +kernel

theorem rejoinDerived {kind : Kind} {text : String} {v : Value}
    (inner : perform (exec ⟨"join", none⟩ (joinParameters name sep)) w = (.ok (.string text), w₁))
    (outer : perform (exec ⟨"value", none⟩ (valueParameters kind text sep)) w₁ = (.ok v, w₂)) :
    Call exec w (writtenRejoin kind name sep) v w₂ := by
  have joined : Pieces exec .value w (writtenJoin name sep) text.toList w₁ := by
    have piece : Piece exec .value w _ _ w₁ := .call (joinDerived inner)
    rw [Value.textString] at piece
    exact piece.alone
  have valued := plainOption "value" (by decide +kernel) false joined
    (separatorOnly sep w₁)
  have typed := plainOption "type" (by decide +kernel) true (keptPieces (kindKept kind) w)
    valued
  rw [String.ofList_toList, String.ofList_toList] at typed
  exact plainCall "value" (by decide +kernel) (by decide) typed outer

end Grammar

namespace Context
variable {W X : Type} {host : Host (StateM W) X} {c : Context X}

theorem joinAnswers (registered : c.functions.get? "join" = some (.builtin .join)) (name : String)
    (sep : Char) {v : Value} {w w' : W} (looked : perform (c.lookup host name) w = (v, w')) :
    perform (c.exec host ⟨"join", none⟩ (joinParameters name sep)) w =
      (.ok (.string (v.joined sep none)), w') := by
  have parted : Parameters.separator (joinParameters name sep) = sep := by
    simp [Parameters.separator, Parameters.value?, Parameters.get?, joinParameters]
  have run : perform (Builtin.join.run host c (joinParameters name sep)).run w =
      (.ok (.string ((perform (c.lookup host name) w).1.joined sep none)),
        (perform (c.lookup host name) w).2) := by
    rw [Builtin.run, parted]
    rfl
  rw [exec, registered]
  exact run.trans (by rw [looked])

theorem valueAnswers (registered : c.functions.get? "value" = some (.builtin .value)) {kind : Kind}
    (known : kind ≠ .unknown) (text : String) (sep : Char) (w : W) :
    perform (c.exec host ⟨"value", none⟩ (valueParameters kind text sep)) w =
      (.ok (.ofPieces kind text sep), w) := by
  have parted : Parameters.separator (valueParameters kind text sep) = sep := by
    simp [Parameters.separator, Parameters.value?, Parameters.get?, valueParameters]
  have read : Kind.read kind.name = .ok kind := by rw [Kind.read, Kind.ofNameBack known]
  have run : perform (Builtin.value.run host c (valueParameters kind text sep)).run w =
      (.ok (.ofPieces kind text sep), w) := by
    have given : (Kind.read kind.name : ExceptT Failure (StateM W) Kind) = pure kind := by
      rw [read]
      rfl
    rw [Builtin.run, parted]
    change perform (ExceptT.run (do
      let kind ← (Kind.read kind.name : ExceptT Failure (StateM W) Kind)
      return Value.ofPieces kind text sep)) w = _
    rw [given]
    rfl
  rw [exec, registered]
  exact run

theorem loggedAnswer {exec : Exec (StateM W)} {id : Identifier} {ps : Parameters}
    {answer : Except Failure Value} {w w' : W} (given : perform (exec id ps) w = (answer, w'))
    (log : List (Identifier × Parameters)) :
    perform (Tokenizer.logged exec id ps) (log, w) = (answer, (log ++ [(id, ps)], w')) :=
  congrArg (fun o => (o.1, (log ++ [(id, ps)], o.2))) given

theorem rejoinLossless (value : c.functions.get? "value" = some (.builtin .value))
    (join : c.functions.get? "join" = some (.builtin .join)) (name : String) (sep : Char) {v : Value}
    {w w' : W} (looked : perform (c.lookup host name) w = (v, w')) (known : v.kind ≠ .unknown)
    (whole : ∀ s ∈ v.components, s ≠ "" ∧ sep ∉ s.toList)
    (log : List (Identifier × Parameters)) :
    ∃ body, writtenRejoin v.kind name sep = '$' :: body ∧ ∀ rest,
      perform (Scan.call (c.exec host) (body ++ rest)) w = ((.ok v, body.length), w') ∧
      perform (Scan.call (Tokenizer.logged (c.exec host)) (body ++ rest)) (log, w) =
        ((.ok v, body.length), (log ++ [(⟨"join", none⟩, joinParameters name sep),
          (⟨"value", none⟩, valueParameters v.kind (v.joined sep none) sep)], w')) := by
  have inner := joinAnswers join name sep looked
  have outer : perform (c.exec host ⟨"value", none⟩
      (valueParameters v.kind (v.joined sep none) sep)) w' = (.ok v, w') := by
    rw [valueAnswers value known, (Value.ofPiecesJoinedIff v sep).mpr whole]
  obtain ⟨body, text, read⟩ := Grammar.callComplete (Grammar.rejoinDerived inner outer)
  obtain ⟨_, text', read'⟩ := Grammar.callComplete
    (Grammar.rejoinDerived (loggedAnswer inner log) (loggedAnswer outer _))
  obtain ⟨-, rfl⟩ := List.cons.inj (text.symm.trans text')
  refine ⟨body, text, fun rest => ⟨read rest, ?_⟩⟩
  rw [read' rest, List.append_assoc]
  rfl

def callLike : Value := ⟨.int, ["$(it's)", "') -type:bool", "\\ "]⟩

theorem rejoinLosslessOfCallLike :
    ∃ body, writtenRejoin .int "it's" ',' = '$' :: body ∧ ∀ rest,
      perform (Scan.call ((bareContext.define "it's" callLike).exec bareHost) (body ++ rest)) () =
        ((.ok callLike, body.length), ()) ∧
      perform (Scan.call (Tokenizer.logged ((bareContext.define "it's" callLike).exec bareHost))
          (body ++ rest)) ([], ()) =
        ((.ok callLike, body.length), ([(⟨"join", none⟩, joinParameters "it's" ','),
          (⟨"value", none⟩, valueParameters .int "$(it's),') -type:bool,\\ " ',')], ())) := by
  have joined : callLike.joined ',' none = "$(it's),') -type:bool,\\ " := by decide +kernel
  rw [← joined]
  exact rejoinLossless (v := callLike) rfl rfl "it's" ',' rfl (by decide) (by decide) []

end Context
end Descriptor
