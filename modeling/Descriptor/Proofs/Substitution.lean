import Descriptor.Proofs.Unread
import Descriptor.Template
/-!
Wherever a text stands, it stands for what it expands to on its own: a literal, the inside of a
quoted section, an option or a value, a name, and a whole value of a condition. The places differ
only in where a text ends.
-/
namespace Descriptor
open Scan
open Text (isBlank)

variable {W : Type} {exec : Exec (StateM W)}

def Template.Expands (exec : Exec (StateM W)) (w : W) (s t : List Char) (w' : W) : Prop :=
  perform (expand exec s) w = (.ok t, w')

namespace Grammar

theorem Piece.alone {place : Place} {s t : List Char} {w w' : W}
    (piece : Piece exec place w s t w') : Pieces exec place w s t w' := by
  have one := Pieces.cons piece .nil
  rwa [List.append_nil, List.append_nil] at one

theorem Pieces.expands {place : Place} {s t : List Char} {w w' : W}
    (pieces : Pieces exec place w s t w') : Template.Expands exec w s t w' := by
  have read : perform (Scan.text exec (fun _ => false) (s ++ [])) w = _ :=
    pieces.readOn (fun _ _ => rfl) []
  rw [List.append_nil] at read
  unfold Template.Expands Template.expand
  rw [performBind, read, Scan.text]
  simp [Except.map, Except.mapError]

theorem identifierSound {s : List Char} {id : Identifier} {n : Nat} {w w' : W}
    (ok : perform (identifier exec s) w = ((.ok id, n), w')) :
    ∃ u gap bracket r, s = u ++ gap ++ bracket ++ r ∧ (u ++ gap ++ bracket).length = n ∧
      Pieces exec .name w u id.name.toList w' ∧ Place.name.Stops (gap ++ bracket ++ r) ∧
      Blanks gap ∧ Bracket bracket id.index := by
  rw [identifier, performBind] at ok
  generalize named : perform (Scan.text exec endsName s) w = o at ok
  obtain ⟨⟨_ | name, k⟩, w₁⟩ := o
  · cases ok
  · obtain ⟨u, r, rfl, rfl, pieces, stops⟩ := textSound .name named
    simp only [performPure] at ok
    generalize identified : identifierOf (u ++ r) name u.length = o at ok
    obtain ⟨_ | id', k⟩ := o
    · cases ok
    · obtain ⟨given, gap, bracket, i, r', rfl, blank, written, rfl, rfl⟩ :=
        identifierOfSound identified
      cases ok
      refine ⟨u, gap, bracket, r', by simp, by simp; omega, ?_, stops, blank, written⟩
      rw [String.toList_ofList]
      exact pieces

end Grammar

namespace Token
open Grammar

theorem doubleGives {c : Char} {t t' : Token} {rest : List Char} {n : Nat}
    (ok : double c t rest = (.ok t', n)) : t' = t := by
  unfold double at ok
  split at ok
  · cases ok
    rfl
  · cases ok

theorem withEqualsGives {a b t : Token} {rest : List Char} {n : Nat}
    (ok : withEquals a b rest = (.ok t, n)) : t = a ∨ t = b := by
  unfold withEquals at ok
  split at ok
  · cases ok
    exact .inl rfl
  · cases ok
    exact .inr rfl

theorem behindGives {o : Outcome Token} {t : Token} {n : Nat} {w w' : W}
    (ok : perform (pure (o.behind 1) : StateM W (Outcome Token)) w = ((.ok t, n), w')) :
    ∃ k, o = (.ok t, k) := by
  obtain ⟨result, k⟩ := o
  cases ok
  exact ⟨k, rfl⟩

theorem pairNot {c : Char} {t t' : Token} {rest : List Char} {n : Nat} {w w' : W}
    (ok : perform (pure ((double c t rest).behind 1) : StateM W (Outcome Token)) w =
      ((.ok t', n), w')) (other : t' ≠ t) : False := by
  obtain ⟨k, read⟩ := behindGives ok
  exact other (doubleGives read)

theorem equalsNot {a b t : Token} {rest : List Char} {n : Nat} {w w' : W}
    (ok : perform (pure ((withEquals a b rest).behind 1) : StateM W (Outcome Token)) w =
      ((.ok t, n), w')) (longer : t ≠ a) (shorter : t ≠ b) : False := by
  obtain ⟨k, read⟩ := behindGives ok
  obtain same | same := withEqualsGives read
  · exact longer same
  · exact shorter same

theorem scanFromSound {c : Char} {s : List Char} {v : Value} {n : Nat} {w w' : W}
    (ok : perform (scanFrom exec c s) w = ((.ok (.value v), n), w')) :
    ∃ u r, c :: s = u ++ r ∧ u.length = n ∧ Pieces exec .literal w u v.text.toList w' := by
  unfold scanFrom at ok
  split at ok
  · exact (pairNot ok (by simp)).elim
  · exact (pairNot ok (by simp)).elim
  · exact (pairNot ok (by simp)).elim
  · exact (equalsNot ok (by simp) (by simp)).elim
  · exact (equalsNot ok (by simp) (by simp)).elim
  · exact (equalsNot ok (by simp) (by simp)).elim
  · cases ok
  · cases ok
  · rw [performBind] at ok
    generalize inside : perform (Scan.quoted exec s) w = o at ok
    obtain ⟨⟨_ | t, k⟩, w₁⟩ := o
    · cases ok
    · obtain ⟨u, r, rfl, rfl, pieces⟩ := quotedSound inside
      cases ok
      refine ⟨'\'' :: u ++ ['\''], r, by simp, by simp; omega, ?_⟩
      rw [Value.textString, String.toList_ofList]
      exact (Piece.quoted (by decide) pieces).alone
  · rw [performBind] at ok
    generalize called : perform (Scan.call exec s) w = o at ok
    obtain ⟨⟨_ | v', k⟩, w₁⟩ := o
    · cases ok
    · obtain ⟨u, r, rfl, rfl, call⟩ := callSound called
      cases ok
      exact ⟨'$' :: u, r, rfl, by simp; omega, (Piece.call call).alone⟩
  · split at ok
    · cases ok
    · rw [performBind] at ok
      generalize read : perform (Scan.text exec endsLiteral (c :: s)) w = o at ok
      obtain ⟨⟨_ | t, k⟩, w₁⟩ := o
      · cases ok
      · obtain ⟨u, r, whole, rfl, pieces, _⟩ := textSound .literal read
        cases ok
        refine ⟨u, r, whole, rfl, ?_⟩
        rw [Value.textString, String.toList_ofList]
        exact pieces

theorem scanSound {s : List Char} {v : Value} {n : Nat} {w w' : W}
    (ok : perform (scan exec s) w = ((.ok (.value v), n), w')) :
    ∃ gap u r, s = gap ++ u ++ r ∧ (gap ++ u).length = n ∧ Blanks gap ∧
      (∀ c ∈ u.head?, isBlank c = false) ∧ Pieces exec .literal w u v.text.toList w' := by
  obtain ⟨same, _⟩ | ⟨gap, c, s, k, rfl, blank, visible, rfl, first⟩ := scanOf ok
  · cases same
  · obtain ⟨u, r, whole, rfl, pieces⟩ := scanFromSound first
    refine ⟨gap, u, r, by rw [whole, List.append_assoc], by simp, blank, ?_, pieces⟩
    intro d head
    obtain ⟨u, rfl⟩ := List.head?_eq_some_iff.mp head
    obtain ⟨rfl, _⟩ := List.cons.inj whole
    exact visible

end Token

namespace Tokenizer
open Grammar

theorem scannersSubstituteAlike (exec : Exec (StateM W)) (s : List Char) (n : Nat)
    (start finish : List (Identifier × Parameters) × W) :
    (∀ (place : Place) (t : List Char),
      perform (Scan.text (logged exec) place.ends s) start = ((.ok t, n), finish) →
        Template.Expands (logged exec) start (s.take n) t finish) ∧
    (∀ t : List Char, perform (Scan.quoted (logged exec) s) start = ((.ok t, n), finish) →
      ∃ inside r, s = inside ++ '\'' :: r ∧ n = inside.length + 1 ∧
        Template.Expands (logged exec) start inside t finish) ∧
    (∀ id : Identifier, perform (Scan.identifier (logged exec) s) start = ((.ok id, n), finish) →
      ∃ name gap bracket r, s = name ++ gap ++ bracket ++ r ∧ n = (name ++ gap ++ bracket).length ∧
        Place.name.Stops (gap ++ bracket ++ r) ∧ Blanks gap ∧ Bracket bracket id.index ∧
        Template.Expands (logged exec) start name id.name.toList finish) ∧
    (∀ v : Value, perform (Token.scan (logged exec) s) start = ((.ok (.value v), n), finish) →
      ∃ gap slice r, s = gap ++ slice ++ r ∧ n = (gap ++ slice).length ∧ Blanks gap ∧
        (∀ c ∈ slice.head?, isBlank c = false) ∧
        Template.Expands (logged exec) start slice v.text.toList finish) := by
  refine ⟨?_, ?_, ?_, ?_⟩
  · intro place t ok
    obtain ⟨u, r, rfl, rfl, pieces, _⟩ := textSound place ok
    rw [List.take_left]
    exact pieces.expands
  · intro t ok
    obtain ⟨u, r, rfl, rfl, pieces⟩ := quotedSound ok
    exact ⟨u, r, rfl, rfl, pieces.expands⟩
  · intro id ok
    obtain ⟨name, gap, bracket, r, rfl, rfl, pieces, stops, blank, written⟩ := identifierSound ok
    exact ⟨name, gap, bracket, r, rfl, rfl, stops, blank, written, pieces.expands⟩
  · intro v ok
    obtain ⟨gap, slice, r, rfl, rfl, blank, starts, pieces⟩ := Token.scanSound ok
    exact ⟨gap, slice, r, rfl, rfl, blank, starts, pieces.expands⟩

theorem substitutesNames :
    Template.Expands (logged ownNames) ([], ()) ("a$(b)'\\'$(c[1])' d".toList.take 16) "ab'c".toList
        ([(⟨"b", none⟩, []), (⟨"c", some 1⟩, [])], ()) ∧
      (∃ inside r, "x$(b)' d".toList = inside ++ '\'' :: r ∧ 6 = inside.length + 1 ∧
        Template.Expands (logged ownNames) ([], ()) inside "xb".toList ([(⟨"b", none⟩, [])], ())) ∧
      (∃ name gap bracket r, "x$(b) [2])".toList = name ++ gap ++ bracket ++ r ∧
        9 = (name ++ gap ++ bracket).length ∧ Place.name.Stops (gap ++ bracket ++ r) ∧ Blanks gap ∧
        Bracket bracket (some 2) ∧
        Template.Expands (logged ownNames) ([], ()) name "xb".toList ([(⟨"b", none⟩, [])], ())) ∧
      ∃ gap slice r, " $(b) < c".toList = gap ++ slice ++ r ∧ 5 = (gap ++ slice).length ∧
        Blanks gap ∧ (∀ c ∈ slice.head?, isBlank c = false) ∧
        Template.Expands (logged ownNames) ([], ()) slice (Value.string "b").text.toList
          ([(⟨"b", none⟩, [])], ()) := by
  have word : perform (Scan.text (logged ownNames) Place.value.ends "a$(b)'\\'$(c[1])' d".toList)
      ([], ()) = ((.ok "ab'c".toList, 16), ([(⟨"b", none⟩, []), (⟨"c", some 1⟩, [])], ())) := by
    decide +kernel
  have quote : perform (Scan.quoted (logged ownNames) "x$(b)' d".toList) ([], ()) =
      ((.ok "xb".toList, 6), ([(⟨"b", none⟩, [])], ())) := by decide +kernel
  have name : perform (Scan.identifier (logged ownNames) "x$(b) [2])".toList) ([], ()) =
      ((.ok ⟨"xb", some 2⟩, 9), ([(⟨"b", none⟩, [])], ())) := by decide +kernel
  have token : perform (Token.scan (logged ownNames) " $(b) < c".toList) ([], ()) =
      ((.ok (.value (.string "b")), 5), ([(⟨"b", none⟩, [])], ())) := by decide +kernel
  exact ⟨(scannersSubstituteAlike ownNames _ _ _ _).1 .value _ word,
    (scannersSubstituteAlike ownNames _ _ _ _).2.1 _ quote,
    (scannersSubstituteAlike ownNames _ _ _ _).2.2.1 _ name,
    (scannersSubstituteAlike ownNames _ _ _ _).2.2.2 _ token⟩

end Tokenizer
end Descriptor
