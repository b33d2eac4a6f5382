import Descriptor.Proofs.Boundary
/-!
The scanners of embedded calls accept exactly the grammar. What a scanner has read when it succeeds
is derivable, and a derivable text is read whatever follows it, if only the text ends there.
-/
namespace Descriptor.Grammar
open Text (isBlank)
open Scan

variable {W : Type} {exec : Exec (StateM W)}

theorem Params.blank {first first' : Bool} {w w' : W} {s : List Char} {ps : Parameters} {c : Char}
    (params : Params exec first w s ps w') (blank : isBlank c) :
    Params exec first' w (c :: s) ps w' := by
  cases params with
  | @close _ _ gap blanks => exact @Params.close _ _ _ _ (c :: gap) (blanks.cons blank)
  | @more _ _ gap _ _ _ _ _ _ blanks _ param rest =>
    exact @Params.more _ _ _ _ (c :: gap) _ _ _ _ _ _ (blanks.cons blank) (by simp) param rest

theorem lookupListed {c meant : Char} (found : escapes.lookup c = some meant) :
    (c, meant) ∈ escapes := by
  obtain ⟨before, behind, same, _⟩ := List.lookup_eq_some_iff.mp found
  simp [same]

mutual
theorem textSound (place : Place) {s t : List Char} {n : Nat} {w w' : W}
    (ok : perform (Scan.text exec place.ends s) w = ((.ok t, n), w')) :
    ∃ u r, s = u ++ r ∧ u.length = n ∧ Pieces exec place w u t w' ∧ place.Stops r := by
  match s with
  | [] =>
    rw [Scan.text] at ok
    cases ok
    exact ⟨[], [], rfl, rfl, .nil, by simp [Place.Stops]⟩
  | c :: rest =>
    rw [Scan.text] at ok
    split at ok
    · rename_i ends
      cases ok
      exact ⟨[], c :: rest, rfl, rfl, .nil, by simp [Place.Stops, ends]⟩
    · rename_i goes
      rw [performBind] at ok
      generalize first : perform (unit exec c rest) w = o at ok
      obtain ⟨⟨_ | a, k⟩, w₁⟩ := o
      · cases ok
      · obtain ⟨u, r, rfl, rfl, piece⟩ := unitSound place (by simpa using goes) first
        simp only [performBind, List.drop_left] at ok
        generalize more : perform (Scan.text exec place.ends r) w₁ = o at ok
        obtain ⟨⟨_ | b, k⟩, w₂⟩ := o
        · cases ok
        · obtain ⟨v, r', rfl, rfl, pieces, stops⟩ := textSound place more
          cases ok
          exact ⟨c :: u ++ v, r', by simp, by simp; omega, .cons piece pieces, stops⟩
termination_by 3 * s.length

theorem unitSound (place : Place) {c : Char} {s t : List Char} {n : Nat} {w w' : W}
    (goes : place.ends c = false) (ok : perform (unit exec c s) w = ((.ok t, n), w')) :
    ∃ u r, s = u ++ r ∧ u.length = n ∧ Piece exec place w (c :: u) t w' := by
  rw [Scan.unit] at ok
  split at ok
  · rename_i backslash
    subst backslash
    cases s with
    | nil => cases ok
    | cons c rest =>
      simp only [escape, performPure] at ok
      split at ok
      · rename_i meant listed
        cases ok
        exact ⟨[c], rest, rfl, rfl, .escape (lookupListed listed)⟩
      · cases ok
  · rename_i backslash
    split at ok
    · rename_i quote
      subst quote
      obtain ⟨u, r, rfl, rfl, inside⟩ := quotedSound ok
      exact ⟨u ++ ['\''], r, by simp, by simp, .quoted (endsQuote.mp goes) inside⟩
    · rename_i quote
      split at ok
      · rename_i dollar
        subst dollar
        rw [performBind] at ok
        generalize called : perform (call exec s) w = o at ok
        obtain ⟨⟨_ | v, k⟩, w₁⟩ := o
        · cases ok
        · cases ok
          obtain ⟨u, r, rfl, rfl, call⟩ := callSound called
          exact ⟨u, r, rfl, rfl, .call call⟩
      · rename_i dollar
        cases ok
        have itself : place.Plain c :=
          (plainIff place c).mpr ⟨goes, by simp [isSpecial, backslash, quote, dollar]⟩
        exact ⟨[], s, rfl, rfl, .plain itself⟩
termination_by 3 * s.length + 2

theorem quotedSound {s t : List Char} {n : Nat} {w w' : W}
    (ok : perform (Scan.quoted exec s) w = ((.ok t, n), w')) :
    ∃ u r, s = u ++ '\'' :: r ∧ u.length + 1 = n ∧ Pieces exec .quoted w u t w' := by
  rw [Scan.quoted, performBind] at ok
  generalize inside : perform (Scan.text exec endsQuoted s) w = o at ok
  obtain ⟨⟨_ | a, k⟩, w₁⟩ := o
  · cases ok
  · obtain ⟨u, r, rfl, rfl, pieces, stops⟩ := textSound .quoted inside
    simp only [List.drop_left] at ok
    cases r with
    | nil => cases ok
    | cons c r =>
      have quote : c = '\'' := by simpa [Place.Stops, Place.ends, endsQuoted] using stops
      subst quote
      cases ok
      exact ⟨u, r, rfl, rfl, pieces⟩
termination_by 3 * s.length + 1

theorem callSound {s : List Char} {v : Value} {n : Nat} {w w' : W}
    (ok : perform (Scan.call exec s) w = ((.ok v, n), w')) :
    ∃ u r, s = u ++ r ∧ u.length = n ∧ Call exec w ('$' :: u) v w' := by
  rw [Scan.call.eq_def] at ok
  split at ok
  · rename_i body
    obtain ⟨gap, s, rfl, blank, size, _⟩ := gapOf body
    simp only [size, List.drop_left, ← List.drop_drop, performBind] at ok
    rw [identifier, performBind] at ok
    generalize named : perform (Scan.text exec endsName s) w = o at ok
    obtain ⟨⟨_ | name, k⟩, w₁⟩ := o
    · cases ok
    · obtain ⟨u, r, rfl, rfl, pieces, _⟩ := textSound .name named
      simp only [performPure] at ok
      generalize identified : identifierOf (u ++ r) name u.length = o at ok
      obtain ⟨_ | id, k⟩ := o
      · cases ok
      · obtain ⟨given, gap', bracket, i, r', rfl, blank', written, rfl, rfl⟩ :=
          identifierOfSound identified
        have rest :
            (u ++ (gap' ++ bracket ++ r')).drop (u.length + gap'.length + bracket.length) = r' := by
          simp [Nat.add_assoc]
        simp only [performBind, rest] at ok
        generalize listed : perform (parameters exec r') w₁ = o at ok
        obtain ⟨⟨_ | ps, k⟩, w₂⟩ := o
        · cases ok
        · obtain ⟨s', r, rfl, rfl, params⟩ := parametersSound true (by simp) listed
          simp only [performBind] at ok
          generalize answer : perform (exec ⟨String.ofList name, i⟩ ps) w₂ = o at ok
          obtain ⟨_ | v, w₃⟩ := o
          · cases ok
          · cases ok
            refine ⟨'(' :: gap ++ u ++ gap' ++ bracket ++ s', r, by simp, by simp; omega, ?_⟩
            simpa using Call.mk blank pieces given blank' written params answer
  · cases ok
termination_by 3 * s.length

theorem parametersSound (first : Bool) {s : List Char} {ps : Parameters} {n : Nat} {w w' : W}
    (apart : first = false → Place.value.Stops s)
    (ok : perform (parameters exec s) w = ((.ok ps, n), w')) :
    ∃ u r, s = u ++ r ∧ u.length = n ∧ Params exec first w u ps w' := by
  match s with
  | [] => rw [parameters] at ok; cases ok
  | c :: rest =>
    rw [parameters] at ok
    split at ok
    · rename_i blank
      rw [performBind] at ok
      generalize more : perform (parameters exec rest) w = o at ok
      obtain ⟨⟨e, k⟩, w₁⟩ := o
      cases ok
      obtain ⟨u, r, rfl, rfl, params⟩ := parametersSound true (by simp) more
      exact ⟨c :: u, r, rfl, by simp; omega, params.blank blank⟩
    · rename_i notBlank
      split at ok
      · rename_i close
        subst close
        cases ok
        exact ⟨[')'], rest, rfl, rfl, @Params.close _ _ _ _ [] .nil⟩
      · rename_i notClose
        split at ok
        · rename_i dash
          subst dash
          rw [performBind] at ok
          generalize one : perform (parameter exec rest) w = o at ok
          obtain ⟨⟨_ | p, k⟩, w₁⟩ := o
          · cases ok
          · obtain ⟨u, r, rfl, rfl, param, stops⟩ := parameterSound one
            simp only [performBind, List.drop_left] at ok
            generalize more : perform (parameters exec r) w₁ = o at ok
            obtain ⟨⟨_ | ps, k⟩, w₂⟩ := o
            · cases ok
            · obtain ⟨v, r', rfl, rfl, params⟩ := parametersSound false (fun _ => stops) more
              cases ok
              have started : first = true := by
                cases first with
                | true => rfl
                | false => simpa [Place.Stops, Place.ends, endsValue, notBlank] using apart rfl
              refine ⟨'-' :: u ++ v, r', by simp, by simp; omega, ?_⟩
              exact @Params.more _ _ _ _ [] _ _ _ _ _ _ .nil (by simp [started]) param params
        · cases ok
termination_by 3 * s.length

theorem parameterSound {s : List Char} {p : Parameter} {n : Nat} {w w' : W}
    (ok : perform (parameter exec s) w = ((.ok p, n), w')) :
    ∃ u r, s = u ++ r ∧ u.length = n ∧ Param exec w ('-' :: u) p w' ∧ Place.value.Stops r := by
  rw [parameter, performBind] at ok
  generalize named : perform (Scan.text exec endsOption s) w = o at ok
  obtain ⟨⟨_ | o, k⟩, w₁⟩ := o
  · cases ok
  · obtain ⟨u, r, rfl, rfl, option, stops⟩ := textSound .option named
    simp only [List.drop_left] at ok
    split at ok
    · rename_i colon
      obtain ⟨r', rfl⟩ := List.head?_eq_some_iff.mp colon
      rw [performBind] at ok
      simp only [← List.drop_drop, List.drop_left, List.drop_one, List.tail_cons] at ok
      generalize valued : perform (Scan.text exec endsValue r') w₁ = o at ok
      obtain ⟨⟨_ | x, k⟩, w₂⟩ := o
      · cases ok
      · obtain ⟨v, r, rfl, rfl, value, stops⟩ := textSound .value valued
        cases ok
        exact ⟨u ++ ':' :: v, r, by simp, by simp; omega, .valued option value, stops⟩
    · rename_i colon
      cases ok
      refine ⟨u, r, rfl, rfl, .bare option, ?_⟩
      intro c head
      have stop := stops c head
      have other : c ≠ ':' := by
        intro same
        subst same
        exact colon (by simpa using head)
      simpa [Place.ends, endsOption, endsValue, other] using stop
termination_by 3 * s.length + 1
end

theorem Params.head {first : Bool} {w w' : W} {s : List Char} {ps : Parameters}
    (params : Params exec first w s ps w') :
    ∃ c rest, s = c :: rest ∧ (isBlank c ∨ c = ')' ∨ c = '-' ∧ first = true) := by
  cases params with
  | @close _ _ gap blank =>
    cases gap with
    | nil => exact ⟨')', [], rfl, .inr (.inl rfl)⟩
    | cons c gap => exact ⟨c, gap ++ [')'], rfl, .inl (blank c List.mem_cons_self)⟩
  | @more _ _ gap s p _ s' _ _ blank apart param rest =>
    cases gap with
    | nil =>
      have started : first = true := by simpa using apart
      cases param with
      | bare option => exact ⟨'-', _, rfl, .inr (.inr ⟨rfl, started⟩)⟩
      | valued option value => exact ⟨'-', _, rfl, .inr (.inr ⟨rfl, started⟩)⟩
    | cons c gap => exact ⟨c, gap ++ s ++ s', rfl, .inl (blank c List.mem_cons_self)⟩

theorem Params.valueStops {w w' : W} {s : List Char} {ps : Parameters}
    (params : Params exec false w s ps w') (r : List Char) : Place.value.Stops (s ++ r) := by
  obtain ⟨c, rest, rfl, blank | rfl | ⟨_, first⟩⟩ := params.head
  · simp [Place.Stops, Place.ends, endsValue, blank]
  · simp [Place.Stops, Place.ends, endsValue]
  · contradiction

theorem Params.settled {w w' : W} {s bracket : List Char} {i : Option Nat} {ps : Parameters}
    (params : Params exec true w s ps w') (written : Bracket bracket i) :
    ∃ gap c rest, s = gap ++ c :: rest ∧ Blanks gap ∧ bracket ++ s = gap ++ bracket ++ c :: rest ∧
      c ≠ '[' ∧ (isBlank c = false ∨ bracket ≠ []) := by
  cases written with
  | none =>
    cases params with
    | @close _ _ gap blank => exact ⟨gap, ')', [], rfl, blank, by simp, by decide, .inl (by decide)⟩
    | @more _ _ gap s p _ s' _ _ blank _ param rest =>
      obtain ⟨u, rfl⟩ : ∃ u, s = '-' :: u := by
        cases param with
        | bare option => exact ⟨_, rfl⟩
        | valued option value => exact ⟨_, rfl⟩
      exact ⟨gap, '-', u ++ s', by simp, blank, by simp, by decide, .inl (by decide)⟩
  | some _ =>
    obtain ⟨c, rest, rfl, blank | rfl | ⟨rfl, _⟩⟩ := params.head
    · have other : c ≠ '[' := by
        intro same
        subst same
        exact absurd blank (by decide)
      exact ⟨[], c, rest, rfl, .nil, by simp, other, .inr (by simp)⟩
    · exact ⟨[], ')', rest, rfl, .nil, by simp, by decide, .inl (by decide)⟩
    · exact ⟨[], '-', rest, rfl, .nil, by simp, by decide, .inl (by decide)⟩

theorem parametersBlanks {gap : List Char} (blank : Blanks gap) (s : List Char) (w : W) :
    perform (parameters exec (gap ++ s)) w =
      ((perform (parameters exec s) w).1.behind gap.length, (perform (parameters exec s) w).2) := by
  induction gap with
  | nil => simp [Outcome.behind]
  | cons c gap ih =>
    have first : isBlank c := blank c List.mem_cons_self
    have more := ih (fun c mem => blank c (List.mem_cons_of_mem _ mem))
    rw [List.cons_append, parameters, if_pos first, performBind, more]
    simp [Outcome.behind]
    omega

theorem parametersBehind {gap s : List Char} {ps : Parameters} {n : Nat} {w w' : W} (blank : Blanks gap)
    (read : perform (parameters exec (gap ++ s)) w = ((.ok ps, n), w')) :
    perform (parameters exec s) w = ((.ok ps, n - gap.length), w') := by
  rw [parametersBlanks blank] at read
  generalize perform (parameters exec s) w = o at read
  obtain ⟨⟨result, k⟩, w₁⟩ := o
  cases read
  simp

theorem Params.nameStops {first : Bool} {w w' : W} {gap bracket s : List Char} {i : Option Nat}
    {ps : Parameters} (params : Params exec first w s ps w') (blank : Blanks gap)
    (written : Bracket bracket i) (r : List Char) : Place.name.Stops (gap ++ bracket ++ s ++ r) := by
  cases gap with
  | cons c gap =>
    have stop := endsNameOfBlank (blank c List.mem_cons_self)
    simpa [Place.Stops, Place.ends] using stop
  | nil =>
    cases written with
    | some _ => simp [Place.Stops, Place.ends]; decide
    | none =>
      obtain ⟨c, rest, rfl, blank | rfl | ⟨rfl, _⟩⟩ := params.head
      · simpa [Place.Stops, Place.ends] using endsNameOfBlank blank
      · simp [Place.Stops, Place.ends]; decide
      · simp [Place.Stops, Place.ends]; decide

theorem Piece.starts {place : Place} {w w' : W} {s t : List Char} (piece : Piece exec place w s t w') :
    ∃ c u, s = c :: u ∧ place.ends c = false := by
  cases piece with
  | plain itself => exact ⟨_, [], rfl, ((plainIff place _).mp itself).1⟩
  | escape listed => exact ⟨_, _, rfl, by cases place <;> decide⟩
  | quoted outside inside => exact ⟨_, _, rfl, endsQuote.mpr outside⟩
  | call called =>
    cases called
    exact ⟨_, _, rfl, by cases place <;> decide⟩

theorem Pieces.startsName {w w' : W} {s name : List Char} (pieces : Pieces exec .name w s name w')
    (given : name ≠ []) (r : List Char) : ∀ c ∈ (s ++ r).head?, isBlank c = false := by
  cases pieces with
  | nil => contradiction
  | cons head tail =>
    obtain ⟨c, u, rfl, goes⟩ := head.starts
    have visible : isBlank c = false := Bool.eq_false_iff.mpr fun blank =>
      absurd (endsNameOfBlank blank) (by simpa [Place.ends] using goes)
    simpa using visible

theorem quotedOf {s r t : List Char} {w w' : W}
    (inside : perform (Scan.text exec endsQuoted (s ++ '\'' :: r)) w = ((.ok t, s.length), w')) :
    perform (Scan.quoted exec (s ++ '\'' :: r)) w = ((.ok t, s.length + 1), w') := by
  rw [Scan.quoted, performBind, inside]
  simp only [List.drop_left, List.isEmpty_cons, Bool.false_eq_true, if_false, performPure]

theorem callOf {gap s : List Char} {id : Identifier} {ps : Parameters} {n k : Nat} {w w₁ w₂ : W}
    (before : Blanks gap) (start : ∀ c ∈ s.head?, isBlank c = false)
    (readId : perform (identifier exec s) w = ((.ok id, n), w₁))
    (readParams : perform (parameters exec (s.drop n)) w₁ = ((.ok ps, k), w₂)) :
    perform (Scan.call exec ('(' :: (gap ++ s))) w =
      let (answer, w₃) := perform (exec id ps) w₂
      ((answer.mapError .failure, 1 + gap.length + n + k), w₃) := by
  rw [Scan.call, blanksOf before start, List.drop_left, performBind, readId]
  simp only [← List.drop_drop, List.drop_left, performBind, readParams]
  generalize perform (exec id ps) w₂ = o
  obtain ⟨_ | v, w₃⟩ := o
  · rfl
  · rfl

theorem callReads {gap s name gap' bracket s' r : List Char} {i : Option Nat} {ps : Parameters}
    {w w₁ w₂ : W} (before : Blanks gap) (named : Pieces exec .name w s name w₁) (given : name ≠ [])
    (behind : Blanks gap') (written : Bracket bracket i) (params : Params exec true w₁ s' ps w₂)
    (readName : perform (Scan.text exec endsName (s ++ (gap' ++ bracket ++ s' ++ r))) w =
      ((.ok name, s.length), w₁))
    (readParams : perform (parameters exec (s' ++ r)) w₁ = ((.ok ps, s'.length), w₂)) :
    perform (Scan.call exec ('(' :: gap ++ s ++ gap' ++ bracket ++ s' ++ r)) w =
      let (answer, w₃) := perform (exec ⟨String.ofList name, i⟩ ps) w₂
      ((answer.mapError .failure, ('(' :: gap ++ s ++ gap' ++ bracket ++ s').length), w₃) := by
  have start := named.startsName given (gap' ++ bracket ++ s' ++ r)
  obtain ⟨more, c, rest, rfl, blank, moved, unopened, stop⟩ := params.settled written
  have gaps : Blanks (gap' ++ more) := behind.append blank
  have whole : gap' ++ bracket ++ (more ++ c :: rest) ++ r =
      gap' ++ more ++ bracket ++ c :: (rest ++ r) := by
    rw [List.append_assoc gap', moved]; simp
  have identified := identifierOfComplete (u := s) (r := rest ++ r) given gaps written unopened stop
  rw [List.append_assoc] at readParams
  have readRest := parametersBehind blank readParams
  have readId : perform (identifier exec (s ++ (gap' ++ bracket ++ (more ++ c :: rest) ++ r))) w =
      ((.ok ⟨String.ofList name, i⟩, (s ++ (gap' ++ more) ++ bracket).length), w₁) := by
    rw [identifier, performBind, readName, whole]
    simp only [performPure, identified]
  have left : (s ++ (gap' ++ bracket ++ (more ++ c :: rest) ++ r)).drop
      (s ++ (gap' ++ more) ++ bracket).length = c :: rest ++ r := by
    rw [whole]
    have split : s ++ (gap' ++ more ++ bracket ++ c :: (rest ++ r)) =
        (s ++ (gap' ++ more) ++ bracket) ++ (c :: rest ++ r) := by simp
    rw [split, List.drop_left]
  have read := callOf before start readId (by rw [left]; exact readRest)
  have body : '(' :: gap ++ s ++ gap' ++ bracket ++ (more ++ c :: rest) ++ r =
      '(' :: (gap ++ (s ++ (gap' ++ bracket ++ (more ++ c :: rest) ++ r))) := by simp
  have size : 1 + gap.length + (s ++ (gap' ++ more) ++ bracket).length +
      ((more ++ c :: rest).length - more.length) =
        ('(' :: gap ++ s ++ gap' ++ bracket ++ (more ++ c :: rest)).length := by
    simp
    omega
  rw [body, read, size]

theorem readUpTo {place : Place} {s t r : List Char} {w w' : W}
    (on : perform (Scan.text exec place.ends (s ++ r)) w =
      let ((result, n), w₂) := perform (Scan.text exec place.ends r) w'
      ((result.map (t ++ ·), s.length + n), w₂)) (stops : place.Stops r) :
    perform (Scan.text exec place.ends (s ++ r)) w = ((.ok t, s.length), w') := by
  rw [on]
  cases r with
  | nil => simp [Scan.text, Except.map]
  | cons c r => simp [Scan.text, stops c rfl, Except.map]

mutual
theorem pieceComplete {place : Place} {s t : List Char} {w w' : W} (piece : Piece exec place w s t w') :
    ∃ c u, s = c :: u ∧ place.ends c = false ∧
      ∀ r, perform (unit exec c (u ++ r)) w = ((.ok t, u.length), w') := by
  match piece with
  | .plain (c := c) itself =>
    obtain ⟨goes, plain⟩ := (plainIff place c).mp itself
    refine ⟨c, [], rfl, goes, fun r => ?_⟩
    simp only [isSpecial, Bool.or_eq_false_iff, decide_eq_false_iff_not] at plain
    simp [Scan.unit, plain]
  | @Piece.escape _ _ _ _ c meant listed =>
    refine ⟨'\\', [c], rfl, by cases place <;> decide, fun r => ?_⟩
    have found : escapes.lookup c = some meant := by
      have all : ∀ e ∈ escapes, escapes.lookup e.1 = some e.2 := by decide
      exact all _ listed
    simp [Scan.unit, escape, found]
  | .quoted (s := s) outside inside =>
    refine ⟨'\'', s ++ ['\''], rfl, endsQuote.mpr outside, fun r => ?_⟩
    have read := readUpTo (inside.readOn (fun _ => id) ('\'' :: r))
      (by simp [Place.Stops, Place.ends, endsQuoted])
    have closed := quotedOf read
    simp [Scan.unit, closed]
  | .call called =>
    obtain ⟨u, rfl, read⟩ := callComplete called
    refine ⟨'$', u, rfl, by cases place <;> decide, fun r => ?_⟩
    simp [Scan.unit, performMap, read r, Except.map]

theorem Pieces.readOn {place : Place} {s t : List Char} {w w' : W}
    (pieces : Pieces exec place w s t w') {ends : Char → Bool}
    (longer : ∀ c, place.ends c = false → ends c = false) (r : List Char) :
    perform (Scan.text exec ends (s ++ r)) w =
      let ((result, n), w₂) := perform (Scan.text exec ends r) w'
      ((result.map (t ++ ·), s.length + n), w₂) := by
  match pieces with
  | .nil =>
    rw [List.nil_append]
    generalize perform (Scan.text exec ends r) w = o
    obtain ⟨⟨_ | more, n⟩, w₂⟩ := o
    · simp [Except.map]
    · simp [Except.map]
  | .cons (u := v) head tail =>
    obtain ⟨c, u, rfl, goes, first⟩ := pieceComplete head
    have more := tail.readOn longer r
    rw [List.append_assoc, List.cons_append, Scan.text, if_neg (by simp [longer c goes]),
      performBind, first (v ++ r)]
    simp only [List.drop_left, performBind, more]
    generalize perform (Scan.text exec ends r) w' = o
    obtain ⟨⟨_ | x, n⟩, w₂⟩ := o
    · simp [Except.map]
      omega
    · simp [Except.map]
      omega

theorem callComplete {s : List Char} {v : Value} {w w' : W} (called : Call exec w s v w') :
    ∃ u, s = '$' :: u ∧ ∀ r, perform (Scan.call exec (u ++ r)) w = ((.ok v, u.length), w') := by
  match called with
  | @Call.mk _ _ _ gap s name w₁ gap' bracket i s' ps w₂ _ _ before named given behind written params
      answer =>
    refine ⟨'(' :: gap ++ s ++ gap' ++ bracket ++ s', rfl, fun r => ?_⟩
    have readName := readUpTo (named.readOn (fun _ => id) _) (params.nameStops behind written r)
    have readParams := parametersComplete params r
    rw [callReads before named given behind written params readName readParams, answer]
    rfl

theorem parameterComplete {s : List Char} {p : Parameter} {w w' : W} (param : Param exec w s p w') :
    ∃ u, s = '-' :: u ∧ ∀ r, Place.value.Stops r →
      perform (parameter exec (u ++ r)) w = ((.ok p, u.length), w') := by
  match param with
  | @Param.bare _ _ _ s o _ option =>
    refine ⟨s, rfl, fun r stops => ?_⟩
    have optionStops : Place.option.Stops r := fun c head => by
      have stop := stops c head
      simp only [Place.ends, endsValue, Bool.or_eq_true] at stop
      simp only [Place.ends, endsOption, Bool.or_eq_true]
      exact stop.imp_left .inr
    have noColon : r.head? ≠ some ':' := fun head => absurd (stops ':' head) (by decide)
    have read := readUpTo (option.readOn (fun _ => id) r) optionStops
    simp only [Place.ends] at read
    rw [parameter, performBind, read]
    simp only [List.drop_left, if_neg noColon, performPure]
  | @Param.valued _ _ _ s o _ s' x _ option value =>
    refine ⟨s ++ ':' :: s', by simp, fun r stops => ?_⟩
    have readOption := readUpTo (option.readOn (fun _ => id) (':' :: (s' ++ r)))
      (by simp [Place.Stops, Place.ends, endsOption])
    have readValue := readUpTo (value.readOn (fun _ => id) r) stops
    simp only [Place.ends] at readOption readValue
    rw [List.append_assoc, List.cons_append, parameter, performBind, readOption]
    simp only [← List.drop_drop, List.drop_left, List.head?_cons, if_true, performBind, List.drop_one,
      List.tail_cons, readValue, performPure]
    simp [Except.map]
    omega

theorem parametersComplete {first : Bool} {s : List Char} {ps : Parameters} {w w' : W}
    (params : Params exec first w s ps w') (r : List Char) :
    perform (parameters exec (s ++ r)) w = ((.ok ps, s.length), w') := by
  match params with
  | .close blank =>
    have closes : isBlank ')' = false := by decide
    rw [List.append_assoc, parametersBlanks blank]
    simp [parameters, closes, Outcome.behind]
  | @Params.more _ _ _ _ gap s p _ s' ps _ blank apart param rest =>
    obtain ⟨u, rfl, one⟩ := parameterComplete param
    have dash : isBlank '-' = false := by decide
    have readOne := one (s' ++ r) (rest.valueStops r)
    have readMore := parametersComplete rest r
    rw [List.append_assoc, List.append_assoc, parametersBlanks blank]
    simp [parameters, performMap, dash, readOne, readMore, Outcome.behind, Except.map]
    omega
end

theorem piecesComplete {place : Place} {s t : List Char} {w w' : W}
    (pieces : Pieces exec place w s t w') (r : List Char) (stops : place.Stops r) :
    perform (Scan.text exec place.ends (s ++ r)) w = ((.ok t, s.length), w') :=
  readUpTo (pieces.readOn (fun _ => id) r) stops

theorem quotedComplete {s t : List Char} {w w' : W} (inside : Pieces exec .quoted w s t w')
    (r : List Char) :
    perform (Scan.quoted exec (s ++ '\'' :: r)) w = ((.ok t, s.length + 1), w') :=
  quotedOf (piecesComplete inside ('\'' :: r) (by simp [Place.Stops, Place.ends, endsQuoted]))

theorem callAnswers {gap s name gap' bracket s' : List Char} {i : Option Nat} {ps : Parameters}
    {w w₁ w₂ : W} (before : Blanks gap) (named : Pieces exec .name w s name w₁) (given : name ≠ [])
    (behind : Blanks gap') (written : Bracket bracket i) (params : Params exec true w₁ s' ps w₂)
    (r : List Char) :
    perform (Scan.call exec ('(' :: gap ++ s ++ gap' ++ bracket ++ s' ++ r)) w =
      let (answer, w₃) := perform (exec ⟨String.ofList name, i⟩ ps) w₂
      ((answer.mapError .failure, ('(' :: gap ++ s ++ gap' ++ bracket ++ s').length), w₃) :=
  callReads before named given behind written params
    (piecesComplete named _ (params.nameStops behind written r)) (parametersComplete params r)

theorem callAccepted (exec : Exec (StateM W)) (w : W) (s : List Char) :
    (∀ v n w', perform (Scan.call exec s) w = ((.ok v, n), w') ↔
      ∃ p r, '$' :: s = p ++ r ∧ p.length = n + 1 ∧ Call exec w p v w') ∧
    ∀ p r q r' v v' w₁ w₂, '$' :: s = p ++ r → '$' :: s = q ++ r' →
      Call exec w p v w₁ → Call exec w q v' w₂ → p = q ∧ v = v' ∧ w₁ = w₂ := by
  have complete {p r : List Char} {v : Value} {w' : W} (whole : '$' :: s = p ++ r)
      (called : Call exec w p v w') :
      ∃ n, p.length = n + 1 ∧ perform (Scan.call exec s) w = ((.ok v, n), w') := by
    obtain ⟨u, rfl, read⟩ := callComplete called
    obtain ⟨_, rfl⟩ := List.cons.inj whole
    exact ⟨u.length, rfl, read r⟩
  constructor
  · intro v n w'
    constructor
    · intro ok
      obtain ⟨u, r, rfl, rfl, called⟩ := callSound ok
      exact ⟨'$' :: u, r, rfl, rfl, called⟩
    · intro derived
      obtain ⟨p, r, whole, size, called⟩ := derived
      obtain ⟨k, size', read⟩ := complete whole called
      obtain rfl : k = n := by omega
      exact read
  · intro p r q r' v v' w₁ w₂ left right callLeft callRight
    obtain ⟨n, sizeLeft, readLeft⟩ := complete left callLeft
    obtain ⟨k, sizeRight, readRight⟩ := complete right callRight
    cases readLeft.symm.trans readRight
    have same := List.append_inj (left.symm.trans right) (sizeLeft.trans sizeRight.symm)
    exact ⟨same.1, rfl, rfl⟩

end Descriptor.Grammar
