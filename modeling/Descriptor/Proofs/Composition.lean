import Descriptor.Proofs.Reports
/-!
Templates one behind the other. No unit of a template looks past its own end, so the second one is
read as if it stood alone, only that it begins later: its reports count the bytes before it.
-/
namespace Descriptor
open Scan (Stop Fault)

variable {W : Type} {exec : Exec (StateM W)}

namespace Template

theorem expandPieces {s t : List Char} {w w' : W} (ok : perform (expand exec s) w = (.ok t, w')) :
    Grammar.Pieces exec .template w s t w' := by
  rw [expandRuns] at ok
  generalize read : perform (Scan.text exec (fun _ => false) s) w = o at ok
  obtain ⟨⟨_ | t', n⟩, w₁⟩ := o
  · cases ok
  · cases ok
    obtain ⟨u, r, rfl, -, pieces, stops⟩ := Grammar.textSound .template read
    cases r with
    | nil => rwa [List.append_nil]
    | cons c r => exact absurd (stops c rfl) Bool.false_ne_true

theorem expandBehind {a b x : List Char} {w w₁ : W} (ok : perform (expand exec a) w = (.ok x, w₁)) :
    perform (expand exec (a ++ b)) w =
      let ((result, _), w₂) := perform (Scan.text exec (fun _ => false) b) w₁
      ((result.map (x ++ ·)).mapError (·.toFailure (a ++ b)), w₂) := by
  rw [expandRuns, (expandPieces ok).readOn (fun _ _ => rfl) b]

end Template

theorem faultShifts {f : Fault} {b : List Char} (stands : f.Stands b) (a : List Char) :
    (Stop.fault f).toFailure (a ++ b) = .of (.expression (.malformed f.defect
      ((String.ofList a).utf8ByteSize +
        ((String.ofList b).utf8ByteSize - (String.ofList f.unread).utf8ByteSize))
      (String.ofList f.unread))) := by
  obtain ⟨before, rfl, -⟩ := stands
  rw [Stop.toFailure, ← List.append_assoc, bytesBefore, bytesBefore, String.ofList_append,
    String.utf8ByteSize_append]

namespace Context
variable {X : Type} (host : Host (StateM W) X) (c : Context X)

def outcome (text : String) (w : W) : Except Stop (List Char) × W :=
  let ((result, _), w') := perform (Scan.text (c.exec host) (fun _ => false) text.toList) w
  (result, w')

def calls (text : String) (w : W) : List (Identifier × Parameters) :=
  (perform (Template.expand (Tokenizer.logged (c.exec host)) text.toList) ([], w)).2.1

theorem expandRuns (text : String) (w : W) :
    perform (c.expand host text) w =
      let (result, w') := c.outcome host text w
      (match result with
        | .ok t => .ok (String.ofList t)
        | .error stop => .error ((stop.toFailure text.toList).within (.expanding text)), w') := by
  unfold expand outcome
  rw [performBind, Template.expandRuns]
  generalize perform (Scan.text (c.exec host) (fun _ => false) text.toList) w = o
  obtain ⟨⟨_ | t, n⟩, w'⟩ := o
  · rfl
  · rfl

theorem expandOk {text x : String} {w w' : W} (ok : perform (c.expand host text) w = (.ok x, w')) :
    perform (Template.expand (c.exec host) text.toList) w = (.ok x.toList, w') := by
  unfold expand at ok
  rw [performBind] at ok
  generalize perform (Template.expand (c.exec host) text.toList) w = o at ok
  obtain ⟨_ | t, w₁⟩ := o
  · cases ok
  · cases ok
    rw [String.toList_ofList]

theorem outcomeStands {b : String} {f : Fault} {w w' : W}
    (stopped : c.outcome host b w = (.error (.fault f), w')) : f.Stands b.toList := by
  unfold outcome at stopped
  generalize read : perform (Scan.text (c.exec host) (fun _ => false) b.toList) w = o at stopped
  obtain ⟨⟨result, n⟩, w₁⟩ := o
  cases stopped
  exact Scan.textStopped read []

theorem expandBehind {a b x : String} {w w₁ : W} (ok : perform (c.expand host a) w = (.ok x, w₁)) :
    perform (c.expand host (a ++ b)) w =
      let (result, w₂) := c.outcome host b w₁
      (match result with
        | .ok t => .ok (x ++ String.ofList t)
        | .error stop =>
          .error ((stop.toFailure (a.toList ++ b.toList)).within (.expanding (a ++ b))), w₂) := by
  unfold expand outcome
  rw [performBind, String.toList_append, Template.expandBehind (expandOk host c ok)]
  generalize perform (Scan.text (c.exec host) (fun _ => false) b.toList) w₁ = o
  obtain ⟨⟨_ | t, n⟩, w'⟩ := o
  · rfl
  · simp [Except.map, Except.mapError, String.ofList_append]

theorem callsAppend {a b x : String} {w w₁ : W} (ok : perform (c.expand host a) w = (.ok x, w₁)) :
    c.calls host (a ++ b) w = c.calls host a w ++ c.calls host b w₁ := by
  have logged := loggedCalls (c.exec host)
  have first : perform (Template.expand (Tokenizer.logged (c.exec host)) a.toList) ([], w) =
      (.ok x.toList, (c.calls host a w, w₁)) := by
    rw [logAppends (Template.expandSimulates logged a.toList), expandOk host c ok]
    rfl
  have second := logAppends (Scan.textSimulates logged (fun _ => false) b.toList)
    (c.calls host a w) w₁
  have whole : c.calls host (a ++ b) w =
      (perform (Template.expand (Tokenizer.logged (c.exec host)) (a.toList ++ b.toList))
        ([], w)).2.1 := by
    rw [calls, String.toList_append]
  rw [whole, Template.expandBehind first, second]
  rfl

theorem expandAppend {a b x : String} {w w₁ : W} (ok : perform (c.expand host a) w = (.ok x, w₁)) :
    (∀ y w₂, perform (c.expand host b) w₁ = (.ok y, w₂) →
      perform (c.expand host (a ++ b)) w = (.ok (x ++ y), w₂)) ∧
    (∀ g w₂, perform (c.expand host b) w₁ = (.error g, w₂) →
      (∃ f offset, c.outcome host b w₁ = (.error (.fault f), w₂) ∧
        g = ⟨[.expanding b],
          .expression (.malformed f.defect offset (String.ofList f.unread))⟩ ∧
        perform (c.expand host (a ++ b)) w = (.error ⟨[.expanding (a ++ b)], .expression
          (.malformed f.defect (a.utf8ByteSize + offset) (String.ofList f.unread))⟩, w₂)) ∨
      (∃ e, c.outcome host b w₁ = (.error (.failure e), w₂) ∧ g = e.within (.expanding b) ∧
        perform (c.expand host (a ++ b)) w = (.error (e.within (.expanding (a ++ b))), w₂))) ∧
    c.calls host (a ++ b) w = c.calls host a w ++ c.calls host b w₁ := by
  refine ⟨?_, ?_, callsAppend host c ok⟩
  · intro y w₂ second
    rw [expandRuns] at second
    rw [expandBehind host c ok]
    generalize c.outcome host b w₁ = o at second
    obtain ⟨_ | t, w'⟩ := o
    · cases second
    · cases second
      rfl
  · intro g w₂ second
    rw [expandRuns] at second
    rw [expandBehind host c ok]
    generalize stopped : c.outcome host b w₁ = o at second
    obtain ⟨(f | e) | t, w'⟩ := o
    · cases second
      have stands := outcomeStands host c stopped
      refine .inl ⟨f, b.utf8ByteSize - (String.ofList f.unread).utf8ByteSize, rfl, ?_, ?_⟩
      · simp [Stop.toFailure, Failure.of, Failure.within]
      · simp [faultShifts stands, Failure.of, Failure.within]
    · cases second
      exact .inr ⟨e, rfl, rfl, rfl⟩
    · cases second

theorem expandAppendBehindCall :
    perform (bareContext.expand bareHost "$(true)é") () = (.ok "trueé", ()) ∧
    perform (bareContext.expand bareHost ("$(true)é" ++ "\\$x")) () = (.ok ("trueé" ++ "$x"), ()) ∧
    (perform (bareContext.expand bareHost "-'x") () =
        (.error ⟨[.expanding "-'x"], .expression (.malformed .unterminatedQuote 1 "'x")⟩, ()) ∧
      perform (bareContext.expand bareHost ("$(true)é" ++ "-'x")) () = (.error
        ⟨[.expanding "$(true)é-'x"], .expression (.malformed .unterminatedQuote 10 "'x")⟩, ())) ∧
    (perform (bareContext.expand bareHost "$(fail)") () =
        (.error ⟨[.expanding "$(fail)"], .other "failed"⟩, ()) ∧
      perform (bareContext.expand bareHost ("$(true)é" ++ "$(fail)")) () =
        (.error ⟨[.expanding "$(true)é$(fail)"], .other "failed"⟩, ())) ∧
    bareContext.calls bareHost ("$(true)é" ++ "$(fail)") () =
      bareContext.calls bareHost "$(true)é" () ++ bareContext.calls bareHost "$(fail)" () := by
  have first : perform (bareContext.expand bareHost "$(true)é") () = (.ok "trueé", ()) := by
    decide +kernel
  have plain : perform (bareContext.expand bareHost "\\$x") () = (.ok "$x", ()) := by
    decide +kernel
  have faulty : perform (bareContext.expand bareHost "-'x") () =
      (.error ⟨[.expanding "-'x"], .expression (.malformed .unterminatedQuote 1 "'x")⟩, ()) := by
    decide +kernel
  have failing : perform (bareContext.expand bareHost "$(fail)") () =
      (.error ⟨[.expanding "$(fail)"], .other "failed"⟩, ()) := by decide +kernel
  have own : bareContext.outcome bareHost "-'x" () =
      (.error (.fault ⟨.unterminatedQuote, ['\'', 'x']⟩), ()) := by decide +kernel
  refine ⟨first, (expandAppend bareHost bareContext first).1 _ _ plain, ⟨faulty, ?_⟩,
    ⟨failing, ?_⟩, (expandAppend bareHost bareContext first).2.2⟩
  · obtain ⟨f, offset, stopped, told, behind⟩ | ⟨e, stopped, -, -⟩ :=
      (expandAppend bareHost bareContext first).2.1 _ _ faulty
    · rw [own] at stopped
      cases stopped
      cases told
      exact behind
    · rw [own] at stopped
      cases stopped
  · obtain ⟨f, offset, -, told, -⟩ | ⟨⟨layers, cause⟩, -, told, behind⟩ :=
      (expandAppend bareHost bareContext first).2.1 _ _ failing
    · cases told
    · cases told
      exact behind

end Context
end Descriptor
