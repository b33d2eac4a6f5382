import Descriptor.Text.Casing.Context
import Descriptor.Text.Casing.Lower
import Descriptor.Text.Casing.Upper
/-!
Upper and lower case of whole texts by the full case mappings of Unicode: one character may become
up to three, and a capital sigma at the end of a word becomes the final small sigma. No rule of a
single language is applied.
-/
namespace Descriptor.Text

def toUpper (s : List Char) : List Char :=
  s.flatMap Casing.upper.apply

namespace Casing

def meetsCased (s : List Char) : Bool :=
  match s.dropWhile ignorable.has with
  | c :: _ => cased.has c
  | [] => false

def lowerBehind (before : List Char) : List Char → List Char
  | [] => []
  | c :: after =>
    let image :=
      if c = 'Σ' then [if meetsCased before && !meetsCased after then 'ς' else 'σ']
      else lower.apply c
    image ++ lowerBehind (c :: before) after

end Casing

def toLower (s : List Char) : List Char :=
  Casing.lowerBehind [] s

example : toUpper "straße ﬁn".toList = "STRASSE FIN".toList := by decide +kernel
example : toLower "ΑΣ ΣΑΣ Σ ΑΣ.".toList = "ας σας σ ας.".toList := by decide +kernel
example : toLower "İ".toList = "i̇".toList := by decide +kernel

end Descriptor.Text
