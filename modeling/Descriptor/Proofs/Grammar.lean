import Descriptor.Proofs.World
import Descriptor.Token
/-!
The written form of embedded calls, told without a scanner:

    call   := '$(' blank* name blank* ['[' index ']'] [blank* param (blank+ param)*] blank* ')'
    name   := (alphanumeric | '_' | quoted | escape | call)*, whose text is not empty
    param  := '-' option [':' value]
    quoted := '\'' (plain | escape | call)* '\''

Names, options and values are texts that calls in them take part in, so a derivation carries out
its calls as it goes: it leads from one state of the world to another, and what it stands for is
the text or the value that comes out.
-/
namespace Descriptor.Grammar
open Text (isAlphanumeric isBlank)

/- Where a text with embedded calls stands. The places differ in the characters that stand for
themselves, and only a quoted section has no quoted section in it. -/
inductive Place where
  | name | option | value | quoted | literal | template
  deriving DecidableEq, Repr

def Place.Plain : Place → Char → Prop
  | name, c => isAlphanumeric c ∨ c = '_'
  | option, c => c ∉ [':', ')', '\'', '\\', '$'] ∧ ¬ isBlank c
  | value, c => c ∉ [')', '\'', '\\', '$'] ∧ ¬ isBlank c
  | quoted, c => c ∉ ['\'', '\\', '$']
  | literal, c => Token.isLiteral c
  | template, c => c ∉ ['\'', '\\', '$']

def Blanks (s : List Char) : Prop := ∀ c ∈ s, isBlank c

def Index (s : List Char) (n : Nat) : Prop :=
  ']' ∉ s ∧ ∃ sign digits, Text.trim s = sign ++ digits ∧ (sign = [] ∨ sign = ['+']) ∧
    digits ≠ [] ∧ (∀ c ∈ digits, Decimal.isDigit c) ∧ Decimal.value digits = n ∧ n < UInt64.size

inductive Bracket : List Char → Option Nat → Prop where
  | none : Bracket [] none
  | some {s n} (index : Index s n) : Bracket ('[' :: s ++ [']']) (some n)

variable {W : Type} (exec : Exec (StateM W))

/- In `Params`, the flag says that no parameter stands before, and so none needs to be kept apart
from what follows. -/
mutual
inductive Piece : Place → W → List Char → List Char → W → Prop where
  | plain {place w c} (itself : place.Plain c) : Piece place w [c] [c] w
  | escape {place w c meant} (listed : (c, meant) ∈ Scan.escapes) :
      Piece place w ['\\', c] [meant] w
  | quoted {place w s t w'} (outside : place ≠ .quoted) (inside : Pieces .quoted w s t w') :
      Piece place w ('\'' :: s ++ ['\'']) t w'
  | call {place w s v w'} (called : Call w s v w') : Piece place w s v.text.toList w'

inductive Pieces : Place → W → List Char → List Char → W → Prop where
  | nil {place w} : Pieces place w [] [] w
  | cons {place w s t w₁ u v w₂} (head : Piece place w s t w₁) (tail : Pieces place w₁ u v w₂) :
      Pieces place w (s ++ u) (t ++ v) w₂

inductive Call : W → List Char → Value → W → Prop where
  | mk {w gap s name w₁ gap' bracket index s' ps w₂ v w₃}
      (before : Blanks gap) (named : Pieces .name w s name w₁) (given : name ≠ [])
      (behind : Blanks gap') (indexed : Bracket bracket index) (params : Params true w₁ s' ps w₂)
      (answer : perform (exec ⟨String.ofList name, index⟩ ps) w₂ = (.ok v, w₃)) :
      Call w ('$' :: '(' :: gap ++ s ++ gap' ++ bracket ++ s') v w₃

inductive Param : W → List Char → Parameter → W → Prop where
  | bare {w s o w'} (option : Pieces .option w s o w') :
      Param w ('-' :: s) ⟨String.ofList o, none⟩ w'
  | valued {w s o w₁ s' x w₂} (option : Pieces .option w s o w₁)
      (value : Pieces .value w₁ s' x w₂) :
      Param w ('-' :: s ++ ':' :: s') ⟨String.ofList o, some (String.ofList x)⟩ w₂

inductive Params : Bool → W → List Char → Parameters → W → Prop where
  | close {first w gap} (blank : Blanks gap) : Params first w (gap ++ [')']) [] w
  | more {first w gap s p w₁ s' ps w₂} (blank : Blanks gap) (apart : first = false → gap ≠ [])
      (param : Param w s p w₁) (rest : Params false w₁ s' ps w₂) :
      Params first w (gap ++ s ++ s') (p :: ps) w₂
end

end Descriptor.Grammar
