import Descriptor.Proofs.Quoting
import Descriptor.Proofs.Reports
/-!
Writing tokens so that they are read back. Blanks keep the tokens apart; without them some would
run together with what follows. A string is written in quotes, in which nothing is carried out.
-/
namespace Descriptor
open Condition
open Grammar (Blanks maskedPieces quotedComplete)
open Scan (Outcome)
open Text (isBlank)

variable {W : Type}

def Token.written : Token → List Char
  | .value v => quote v.text.toList
  | t => t.text.toList

/- The end of a text is not written, and of the values only single strings are: any other value
comes from a call. -/
def Token.Writable : Token → Prop
  | .finish => False
  | .value v => ∃ s, v = .string s
  | _ => True

/- Texts in which the tokens stand one behind the other. The flag says that none stands before, and
so the first needs no blanks to be kept apart. -/
inductive Spells : Bool → List Token → List Char → Prop where
  | none {first gap} (blank : Blanks gap) : Spells first [] gap
  | more {first gap t ts s} (blank : Blanks gap) (apart : first = false → gap ≠ [])
      (writable : t.Writable) (rest : Spells false ts s) :
      Spells first (t :: ts) (gap ++ t.written ++ s)

theorem Spells.startsBlank {ts : List Token} {s : List Char} (spells : Spells false ts s) :
    ∀ c ∈ s.head?, isBlank c := by
  intro c head
  cases spells with
  | none blank => exact blank c (List.mem_of_mem_head? head)
  | @more _ gap t ts s blank apart writable rest =>
    cases gap with
    | nil => exact absurd rfl (apart rfl)
    | cons d gap =>
      obtain rfl : d = c := by simpa using head
      exact blank d List.mem_cons_self

namespace Token
variable (exec : Exec (StateM W))

theorem shorterScans {c : Char} {longer shorter : Token} {r : List Char}
    (begins : scanFrom exec c r = pure ((withEquals longer shorter r).behind 1))
    (visible : isBlank c = false) (stop : r.head? ≠ some '=') (w : W) :
    perform (scan exec (c :: r)) w = ((.ok shorter, 1), w) := by
  rw [scanVisible visible, begins, performPure, withEquals, if_neg stop]
  rfl

theorem stringScans (s r : List Char) (w : W) :
    perform (scan exec (quote s ++ r)) w =
      ((.ok (.value (.string (String.ofList s))), (quote s).length), w) := by
  have whole : quote s ++ r = '\'' :: (masked s ++ '\'' :: r) := by simp [quote]
  rw [whole, scanVisible (by decide), scanFrom, performBind,
    quotedComplete (maskedPieces s w)]
  simp [quote, Except.map]
  omega

theorem writtenScans {t : Token} (writable : t.Writable) {r : List Char}
    (stop : r.head? ≠ some '=') (w : W) :
    perform (scan exec (t.written ++ r)) w = ((.ok t, t.written.length), w) := by
  cases t with
  | finish => exact writable.elim
  | or => rfl
  | and => rfl
  | not => exact shorterScans exec rfl (by decide) stop w
  | leftParen => rfl
  | rightParen => rfl
  | relation c =>
    cases c with
    | eq => rfl
    | ne => rfl
    | lt => exact shorterScans exec rfl (by decide) stop w
    | gt => exact shorterScans exec rfl (by decide) stop w
    | le => rfl
    | ge => rfl
  | value v =>
    obtain ⟨s, rfl⟩ := writable
    have text : written (.value (.string s)) = quote s.toList := by
      rw [written, Value.textString]
    have read := stringScans exec s.toList r w
    rwa [String.ofList_toList, ← text] at read

end Token

namespace Tokenizer
variable (exec : Exec (StateM W))

theorem runNextUnpushed (whole s : List Char) (w : W) :
    stateRuns.run (next exec) (⟨whole, s, []⟩, w) =
      let ((result, n), w') := perform (Token.scan exec s) w
      (result.mapError (·.toFailure whole), (⟨whole, s.drop n, []⟩, w')) := by
  rw [runNext]
  exact runScan exec _ w

theorem nextSpelled {first : Bool} {t : Token} {ts : List Token} {s : List Char}
    (spells : Spells first (t :: ts) s) (whole : List Char) (w : W) :
    ∃ s', Spells false ts s' ∧ stateRuns.run (next exec) (⟨whole, s, []⟩, w) =
      (.ok t, (⟨whole, s', []⟩, w)) := by
  cases spells with
  | @more _ gap _ _ s' blank apart writable rest =>
    have stop : s'.head? ≠ some '=' := by
      intro head
      exact absurd (rest.startsBlank '=' head) (by decide)
    have read := Token.writtenScans exec writable stop w
    have left : (gap ++ (t.written ++ s')).drop (gap.length + t.written.length) = s' := by
      rw [← List.drop_drop, List.drop_left, List.drop_left]
    refine ⟨s', rest, ?_⟩
    rw [runNextUnpushed, List.append_assoc, Token.scanBlanks blank, read]
    simp only [Outcome.behind, left]
    rfl

theorem nextBlank {gap : List Char} (blank : Blanks gap) (whole : List Char) (w : W) :
    stateRuns.run (next exec) (⟨whole, gap, []⟩, w) = (.ok .finish, (⟨whole, [], []⟩, w)) := by
  have read : perform (Token.scan exec (gap ++ [])) w = _ := Token.scanBlanks blank [] w
  rw [List.append_nil] at read
  rw [runNextUnpushed, read]
  simp only [Outcome.behind, Token.scan, performPure, Nat.add_zero, List.drop_length]
  rfl

theorem repeatedBlank {gap : List Char} (blank : Blanks gap) (whole : List Char) (n : Nat) (w : W) :
    ∃ k, repeated (stateRuns.run (next exec)) n (⟨whole, gap, []⟩, w) =
      (List.replicate n (.ok .finish), (k, w)) := by
  induction n generalizing gap with
  | zero => exact ⟨_, rfl⟩
  | succ n ih =>
    obtain ⟨k, more⟩ := ih Grammar.Blanks.nil
    refine ⟨k, ?_⟩
    rw [repeated, nextBlank exec blank, more]
    rfl

theorem repeatedSpelled {first : Bool} {ts : List Token} {s : List Char}
    (spells : Spells first ts s) (whole : List Char) (n : Nat) (w : W) :
    ∃ k, repeated (stateRuns.run (next exec)) (ts.length + n) (⟨whole, s, []⟩, w) =
      (ts.map .ok ++ List.replicate n (.ok .finish), (k, w)) := by
  induction ts generalizing first s with
  | nil =>
    cases spells with
    | none blank =>
      obtain ⟨k, read⟩ := repeatedBlank exec blank whole n w
      refine ⟨k, ?_⟩
      simpa using read
  | cons t ts ih =>
    obtain ⟨s', rest, one⟩ := nextSpelled exec spells whole w
    obtain ⟨k, more⟩ := ih rest
    refine ⟨k, ?_⟩
    rw [List.length_cons, Nat.add_right_comm, repeated, one, more]
    rfl

end Tokenizer

namespace Context
variable {X : Type} (host : Host (StateM W) X) (c : Context X)

theorem expandsTo {s t : List Char} {w w' : W} (expands : Template.Expands (c.exec host) w s t w') :
    perform (c.expand host (String.ofList s)) w = (.ok (String.ofList t), w') := by
  unfold expand
  rw [performBind, String.toList_ofList, expands]
  rfl

theorem tokenRoundTrip {tokens : List Token} {text : List Char} (spells : Spells true tokens text)
    (n : Nat) (log : List (Identifier × Parameters)) (w : W) :
    (∃ k, repeated (stateRuns.run (Tokenizer.next (c.exec host))) (tokens.length + n)
        (.ofText text, w) = (tokens.map .ok ++ List.replicate n (.ok .finish), (k, w))) ∧
    (∃ k, repeated (stateRuns.run (Tokenizer.next (Tokenizer.logged (c.exec host))))
        (tokens.length + n) (.ofText text, (log, w)) =
      (tokens.map .ok ++ List.replicate n (.ok .finish), (k, (log, w)))) ∧
    ∀ s : String, perform (c.expand host (String.ofList (quote s.toList))) w = (.ok s, w) ∧
      perform (c.expand host (String.ofList (masked s.toList))) w = (.ok s, w) := by
  refine ⟨Tokenizer.repeatedSpelled _ spells text n w,
    Tokenizer.repeatedSpelled _ spells text n (log, w), ?_⟩
  intro s
  have quoted : Template.Expands (c.exec host) w (quote s.toList) s.toList w :=
    (@Grammar.quotePieces _ _ .template (by decide) s.toList w).expands
  have plain : Template.Expands (c.exec host) w (masked s.toList) s.toList w :=
    (Grammar.maskedPieces s.toList w).expands
  have read := expandsTo host c quoted
  have read' := expandsTo host c plain
  rw [String.ofList_toList] at read read'
  exact ⟨read, read'⟩

theorem tokenRoundTripOfNeighbours :
    (∃ k, repeated (stateRuns.run (Tokenizer.next (bareContext.exec bareHost))) 7
        (.ofText "! != '\\'\\$(x)\\\\' <\u3000==\n)".toList, ()) =
      ([.ok .not, .ok (.relation .ne), .ok (.value (.string "'$(x)\\")), .ok (.relation .lt),
        .ok (.relation .eq), .ok .rightParen, .ok .finish], (k, ()))) ∧
    (∃ k, repeated (stateRuns.run (Tokenizer.next (Tokenizer.logged (bareContext.exec bareHost)))) 7
        (.ofText "! != '\\'\\$(x)\\\\' <\u3000==\n)".toList, ([], ())) =
      ([.ok .not, .ok (.relation .ne), .ok (.value (.string "'$(x)\\")), .ok (.relation .lt),
        .ok (.relation .eq), .ok .rightParen, .ok .finish], (k, ([], ())))) ∧
    ∀ s : String, perform (bareContext.expand bareHost (String.ofList (quote s.toList))) () =
        (.ok s, ()) ∧
      perform (bareContext.expand bareHost (String.ofList (masked s.toList))) () = (.ok s, ()) := by
  have gap {c : Char} (blank : isBlank c) : Blanks [c] := Grammar.Blanks.nil.cons blank
  have text : "! != '\\'\\$(x)\\\\' <\u3000==\n)".toList =
      [] ++ Token.written .not ++ ([' '] ++ Token.written (.relation .ne) ++
        ([' '] ++ Token.written (.value (.string "'$(x)\\")) ++
          ([' '] ++ Token.written (.relation .lt) ++ (['\u3000'] ++ Token.written (.relation .eq) ++
            (['\n'] ++ Token.written .rightParen ++ []))))) := by decide +kernel
  have spells : Spells true [.not, .relation .ne, .value (.string "'$(x)\\"), .relation .lt,
      .relation .eq, .rightParen] "! != '\\'\\$(x)\\\\' <\u3000==\n)".toList := by
    rw [text]
    exact .more .nil nofun trivial <| .more (gap (by decide)) (by simp) trivial <|
      .more (gap (by decide)) (by simp) ⟨_, rfl⟩ <| .more (gap (by decide)) (by simp) trivial <|
        .more (gap (by decide)) (by simp) trivial <| .more (gap (by decide)) (by simp) trivial <|
          .none .nil
  exact tokenRoundTrip bareHost bareContext spells 1 [] ()

end Context
end Descriptor
