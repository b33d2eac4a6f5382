import Descriptor.Proofs.Walk
/-!
Walks keep their footing. A walker that stands at the edge of a character comes through every scanner
without a halt, to the edge of a character again, and gives what the scanner gives. Three rounds for
each character and one more are enough.
-/
namespace Descriptor
open Scan (Outcome Stop)
open Text (isBlank)

variable {W α β : Type}

def Walker.before (whole : List Char) (pushed : List Token) (s : List Char) (w : W) : Walker W :=
  ⟨whole, bytes whole - bytes s, pushed, w⟩

section
variable {k k' : Walker W}

theorem walkPure (a : α) (k : Walker W) : walk (pure a) k = .ok (.ok a, k) := rfl

theorem walkThen {x : Walk W α} {f : α → Walk W β} {a : α} (first : walk x k = .ok (.ok a, k')) :
    walk (x >>= f) k = walk (f a) k' := by
  change (x.run.run k >>= _) = _
  rw [show x.run.run k = .ok (.ok a, k') from first]
  rfl

theorem walkStops {x : Walk W α} {f : α → Walk W β} {e : Failure}
    (first : walk x k = .ok (.error e, k')) : walk (x >>= f) k = .ok (.error e, k') := by
  change (x.run.run k >>= _) = _
  rw [show x.run.run k = .ok (.error e, k') from first]
  rfl

end

namespace Walk
variable {whole s : List Char} {pushed : List Token} {w : W}

theorem walkPosition (k : Walker W) : walk position k = .ok (.ok k.position, k) := rfl

theorem walkUnread (inside : s <:+ whole) :
    walk unread (.before whole pushed s w) = .ok (.ok s, .before whole pushed s w) := by
  have got : walk (get : Walk W (Walker W)) (.before whole pushed s w) =
      .ok (.ok (.before whole pushed s w), .before whole pushed s w) := rfl
  rw [unread, walkThen got]
  simp only [Walker.before, behindBytesSuffix inside]
  rfl

theorem walkPeek (inside : s <:+ whole) :
    walk peek (.before whole pushed s w) = .ok (.ok s.head?, .before whole pushed s w) := by
  rw [peek, walkThen (walkUnread inside)]
  rfl

theorem walkBump {c : Char} (inside : c :: s <:+ whole) :
    walk bump (.before whole pushed (c :: s) w) = .ok (.ok (), .before whole pushed s w) := by
  have fits := bytesSuffix inside
  rw [bytesCons] at fits
  have moved : bytes whole - bytes (c :: s) + c.utf8Size = bytes whole - bytes s := by
    rw [bytesCons]
    omega
  rw [bump, walkThen (walkPeek inside)]
  change Except.ok (Except.ok (), (⟨whole, _ + _, pushed, w⟩ : Walker W)) = _
  rw [Walker.before, moved, Walker.before]

theorem walkEat {c : Char} (inside : c :: s <:+ whole) :
    walk (eat c) (.before whole pushed (c :: s) w) = .ok (.ok true, .before whole pushed s w) := by
  rw [eat, walkThen (walkPeek inside), List.head?_cons, if_pos rfl, walkThen (walkBump inside)]
  rfl

theorem walkEatOther {c : Char} (inside : s <:+ whole) (other : s.head? ≠ some c) :
    walk (eat c) (.before whole pushed s w) = .ok (.ok false, .before whole pushed s w) := by
  rw [eat, walkThen (walkPeek inside), if_neg other]
  rfl

theorem walkEnter {c : Char} (inside : c :: s <:+ whole) :
    walk (enter c) (.before whole pushed (c :: s) w) = .ok (.ok (), .before whole pushed s w) := by
  rw [enter, walkThen (walkPeek inside), List.head?_cons, if_pos rfl]
  exact walkBump inside

def Place.before (whole s : List Char) : Place := ⟨bytes whole - bytes s, s⟩

theorem walkPlace (inside : s <:+ whole) : walk place (.before whole pushed s w) =
    .ok (.ok (.before whole s), .before whole pushed s w) := by
  rw [place, walkThen (walkPosition _), walkThen (walkUnread inside)]
  rfl

theorem walkSkip {gap : List Char} (blank : Grammar.Blanks gap)
    (visible : ∀ c ∈ s.head?, isBlank c = false) (inside : gap ++ s <:+ whole) {rounds : Nat}
    (enough : gap.length < rounds) :
    walk (skip rounds) (.before whole pushed (gap ++ s) w) =
      .ok (.ok (), .before whole pushed s w) := by
  induction gap generalizing rounds with
  | nil =>
    obtain ⟨n, rfl⟩ := Nat.exists_eq_add_one.mpr (Nat.zero_lt_of_lt enough)
    rw [List.nil_append] at inside ⊢
    rw [skip, walkThen (walkPeek inside)]
    cases s with
    | nil => rfl
    | cons c s =>
      simp only [List.head?_cons, visible c rfl, Bool.false_eq_true, if_false]
      rfl
  | cons c gap ih =>
    obtain ⟨n, rfl⟩ := Nat.exists_eq_add_one.mpr (Nat.zero_lt_of_lt enough)
    have first : isBlank c := blank c List.mem_cons_self
    have more : gap ++ s <:+ whole := (List.suffix_cons c _).trans inside
    rw [List.cons_append] at inside ⊢
    rw [skip, walkThen (walkPeek inside)]
    simp only [List.head?_cons, first, if_true]
    rw [walkThen (walkBump inside)]
    exact ih (fun c mem => blank c (List.mem_cons_of_mem _ mem)) more (Nat.lt_of_succ_lt_succ enough)

def landing (whole : List Char) (pushed : List Token) (s : List Char) (o : Outcome α × W) :
    Except Halt (Except Failure α × Walker W) :=
  .ok (o.1.1.mapError (·.toFailure whole), .before whole pushed (s.drop o.1.2) o.2)

theorem walkEscape (inside : '\\' :: s <:+ whole) :
    walk (do return [← escape]) (.before whole pushed ('\\' :: s) w) =
      landing whole pushed s (Scan.escape s, w) := by
  have rest : s <:+ whole := (List.suffix_cons _ s).trans inside
  rw [escape]
  simp only [bind_assoc]
  rw [walkThen (walkPlace inside), walkThen (walkEnter inside), walkThen (walkPeek rest)]
  cases s with
  | nil => rfl
  | cons c s =>
    simp only [List.head?_cons, bind_assoc]
    rw [walkThen (walkBump rest), Scan.escape]
    cases found : Scan.escapes.lookup c with
    | some meant => rfl
    | none => rfl

theorem walkSeekPast {start : Place} {r : List Char} (free : ']' ∉ s) (inside : s ++ r <:+ whole)
    (rounds : Nat) : walk (seek start (s.length + rounds)) (.before whole pushed (s ++ r) w) =
      walk (seek start rounds) (.before whole pushed r w) := by
  induction s with
  | nil => rw [List.length_nil, Nat.zero_add, List.nil_append]
  | cons c s ih =>
    obtain ⟨other, more⟩ : ']' ≠ c ∧ ']' ∉ s := by simpa using free
    rw [List.cons_append] at inside ⊢
    rw [List.length_cons, Nat.add_right_comm, seek, walkThen (walkPeek inside)]
    simp only [List.head?_cons, if_neg other.symm]
    rw [walkThen (walkBump inside)]
    exact ih more ((List.suffix_cons c _).trans inside)

theorem walkSeek {start : Place} {r : List Char} (free : ']' ∉ s) (inside : s ++ ']' :: r <:+ whole)
    {rounds : Nat} (enough : s.length < rounds) :
    walk (seek start rounds) (.before whole pushed (s ++ ']' :: r) w) =
      .ok (.ok (), .before whole pushed (']' :: r) w) := by
  obtain ⟨n, rfl⟩ := Nat.exists_eq_add_of_lt enough
  have closed : ']' :: r <:+ whole := (List.suffix_append _ _).trans inside
  rw [Nat.add_assoc, walkSeekPast free inside, seek, walkThen (walkPeek closed)]
  rfl

theorem walkSeekOpen {t : List Char} (free : ']' ∉ s) (inside : s <:+ whole) {rounds : Nat}
    (enough : s.length < rounds) :
    walk (seek (.before whole t) rounds) (.before whole pushed s w) =
      .ok (.error ((Stop.fault ⟨.missingCloseBracket, t⟩).toFailure whole),
        .before whole pushed [] w) := by
  obtain ⟨n, rfl⟩ := Nat.exists_eq_add_of_lt enough
  have past := @walkSeekPast W whole s pushed w (.before whole t) [] free
  rw [List.append_nil] at past
  rw [Nat.add_assoc, past inside, seek, walkThen (walkPeek List.nil_suffix)]
  rfl

theorem walkDifference {before t : List Char} (inside : before ++ t <:+ whole) (k : Walker W) :
    walk (difference (Walker.before whole pushed t w).position
      (Place.before whole (before ++ t)).position) k = .ok (.ok (bytes before), k) := by
  have fits := bytesSuffix inside
  simp only [Walker.before, Place.before]
  rw [bytesAppend] at fits ⊢
  have apart : bytes whole - bytes t - (bytes whole - (bytes before + bytes t)) = bytes before := by
    omega
  rw [difference, if_pos (by omega), apart]
  rfl

theorem walkIndex (inside : '[' :: s <:+ whole) {rounds : Nat} (enough : s.length < rounds) :
    walk (do return some (← index rounds)) (.before whole pushed ('[' :: s) w) =
      landing whole pushed ('[' :: s) (Scan.index ('[' :: s), w) := by
  have rest : s <:+ whole := (List.suffix_cons _ s).trans inside
  have low : walk (difference (Walker.before whole pushed s w).position
      (Place.before whole ('[' :: s)).position) (.before whole pushed s w) =
        .ok (.ok (bytes ['[']), .before whole pushed s w) :=
    walkDifference (show ['['] ++ s <:+ whole from inside) _
  simp only [index, bind_assoc]
  rw [walkThen (walkPlace inside), walkThen (walkBump inside), walkThen (walkPosition _),
    walkThen low]
  by_cases closes : ']' ∈ s
  · obtain ⟨digits, r, rfl, free⟩ := List.eq_append_cons_of_mem closes
    have closed : ']' :: r <:+ whole := (List.suffix_append _ _).trans rest
    have high : walk (difference (Walker.before whole pushed (']' :: r) w).position
        (Place.before whole ('[' :: (digits ++ ']' :: r))).position)
          (.before whole pushed (']' :: r) w) =
          .ok (.ok (bytes ('[' :: digits)), .before whole pushed (']' :: r) w) :=
      walkDifference (show ('[' :: digits) ++ ']' :: r <:+ whole from inside) _
    have found : between? (bytes ['[']) (bytes ('[' :: digits))
        (Place.before whole ('[' :: (digits ++ ']' :: r))).unread = some digits :=
      betweenAppend ['['] digits (']' :: r)
    have shorter : digits.length < rounds := by
      simp at enough
      omega
    rw [walkThen (walkSeek free rest shorter), walkThen (walkPosition _), walkThen high, found,
      demand, walkThen (walkPure _ _), walkThen (walkBump closed), Grammar.indexClosed free]
    cases Decimal.index? digits with
    | some n => simp [landing, Except.mapError, walkPure]
    | none =>
      have dropped : ('[' :: (digits ++ ']' :: r)).drop (digits.length + 2) = r := by simp
      simp only [landing, Outcome.fault, dropped]
      rfl
  · have all : s.takeWhile (· != ']') = s := by simpa using Grammar.takeWhileInside closes []
    rw [walkStops (walkSeekOpen closes rest enough)]
    simp [Scan.index, all, landing, Outcome.fault, Except.mapError]

theorem walkBracket (inside : s <:+ whole) {rounds : Nat} (enough : s.length < rounds)
    (pushed : List Token) (w : W) : walk (bracket rounds) (.before whole pushed s w) =
      landing whole pushed s (Scan.index s, w) := by
  rw [bracket, walkThen (walkPeek inside)]
  split
  · rename_i opens
    obtain ⟨rest, rfl⟩ := List.head?_eq_some_iff.mp opens
    rw [List.length_cons] at enough
    exact walkIndex inside (by omega)
  · rename_i other
    rw [Scan.index]
    · rfl
    · rintro rest rfl
      exact other rfl

theorem landingBehind (s : List Char) (n : Nat) (o : Outcome α) (w : W) :
    landing whole pushed (s.drop n) (o, w) = landing whole pushed s (o.behind n, w) := by
  rw [landing, landing, List.drop_drop]
  rfl

theorem walkIdentifierOf (inside : s <:+ whole) (name : List Char) (read : Nat) {rounds : Nat}
    (enough : s.length < rounds) :
    walk (do
      skip rounds
      let i ← bracket rounds
      if name.isEmpty then fault .missingIdentifier (.before whole s)
      else return (⟨String.ofList name, i⟩ : Identifier)) (.before whole pushed (s.drop read) w) =
      landing whole pushed s (Scan.identifierOf s name read, w) := by
  obtain ⟨gap, r, parts, blank, size, visible⟩ := Grammar.gapOf (s.drop read)
  have place : s.drop (read + gap.length) = r := by
    rw [← List.drop_drop, parts, List.drop_left]
  have some : gap ++ r <:+ whole := parts ▸ (List.drop_suffix read s).trans inside
  have rest : r <:+ whole := (List.suffix_append _ _).trans some
  have shorter : gap.length + r.length ≤ s.length := by
    rw [← List.length_append, ← parts, List.length_drop]
    exact Nat.sub_le _ _
  have few : r.length < rounds := by omega
  have indexed := walkBracket rest few pushed w
  rw [Scan.identifierOf, size, place, parts,
    walkThen (walkSkip blank visible some (by omega))]
  rw [← place, landingBehind, place] at indexed
  generalize Outcome.behind (read + gap.length) (Scan.index r) = o at indexed ⊢
  obtain ⟨_ | i, n⟩ := o
  · rw [walkStops indexed]
    rfl
  · rw [walkThen indexed]
    dsimp only
    split
    · rfl
    · rfl

theorem walkAnswer (exec : Exec (StateM W)) (id : Identifier) (ps : Parameters) (s : List Char)
    (w : W) : walk (answer exec id ps) (.before whole pushed s w) =
      .ok ((perform (exec id ps) w).1, .before whole pushed s (perform (exec id ps) w).2) := rfl

theorem dropPast (c : Char) (s : List Char) (n k : Nat) :
    (c :: s).drop (n + 1 + k) = (s.drop n).drop k := by
  rw [List.drop_drop, Nat.add_right_comm, List.drop_succ_cons]

theorem dropGap (c : Char) (gap r : List Char) (k : Nat) :
    (c :: (gap ++ r)).drop (1 + gap.length + k) = r.drop k := by
  rw [Nat.add_assoc, Nat.add_comm 1, List.drop_succ_cons, ← List.drop_drop, List.drop_left]

variable (pushed) (exec : Exec (StateM W))

/- A character pays for three rounds: one of the text or the parameters that it stands in, one of the
unit that it begins, and one of the scanner of that unit. -/
mutual

theorem walkText (ends : Char → Bool) {s : List Char} (inside : s <:+ whole) (rounds : Nat)
    (enough : 3 * s.length < rounds) (w : W) :
    walk (text exec ends rounds) (.before whole pushed s w) =
      landing whole pushed s (perform (Scan.text exec ends s) w) := by
  obtain ⟨n, rfl⟩ := Nat.exists_eq_add_one.mpr (Nat.zero_lt_of_lt enough)
  match s with
  | [] =>
    rw [text, walkThen (walkPeek inside), Scan.text]
    rfl
  | c :: rest =>
    have tail : rest <:+ whole := (List.suffix_cons c rest).trans inside
    rw [List.length_cons] at enough
    rw [text, walkThen (walkPeek inside), Scan.text]
    simp only [List.head?_cons]
    split
    · rfl
    · have first := walkUnit inside n (by omega) w
      rw [performBind]
      generalize perform (Scan.unit exec c rest) w = o at first ⊢
      obtain ⟨⟨stop | t, k⟩, w₁⟩ := o
      · rw [walkStops first]
        rfl
      · have more := walkText ends ((List.drop_suffix k rest).trans tail) n
          (by rw [List.length_drop]; omega) w₁
        rw [walkThen first]
        simp only [performBind]
        generalize perform (Scan.text exec ends (rest.drop k)) w₁ = o at more ⊢
        obtain ⟨⟨stop | u, j⟩, w₂⟩ := o
        · rw [walkStops more]
          simp only [landing, performPure, dropPast]
          rfl
        · rw [walkThen more]
          simp only [landing, performPure, dropPast]
          rfl
termination_by rounds

theorem walkUnit {c : Char} {s : List Char} (inside : c :: s <:+ whole) (rounds : Nat)
    (enough : 3 * s.length + 2 < rounds) (w : W) :
    walk (unit exec c rounds) (.before whole pushed (c :: s) w) =
      landing whole pushed s (perform (Scan.unit exec c s) w) := by
  obtain ⟨n, rfl⟩ := Nat.exists_eq_add_one.mpr (Nat.zero_lt_of_lt enough)
  rw [unit, Scan.unit]
  split
  · rename_i same
    subst same
    exact walkEscape inside
  · split
    · rename_i same
      subst same
      exact walkQuoted inside n (by omega) w
    · split
      · rename_i same
        subst same
        have called := walkCall inside n (by omega) w
        rw [performBind]
        generalize perform (Scan.call exec s) w = o at called ⊢
        obtain ⟨⟨stop | v, k⟩, w₁⟩ := o
        · rw [walkStops called]
          rfl
        · rw [walkThen called]
          rfl
      · rw [walkThen (walkBump inside)]
        rfl
termination_by rounds

theorem walkQuoted {s : List Char} (inside : '\'' :: s <:+ whole) (rounds : Nat)
    (enough : 3 * s.length + 1 < rounds) (w : W) :
    walk (quoted exec rounds) (.before whole pushed ('\'' :: s) w) =
      landing whole pushed s (perform (Scan.quoted exec s) w) := by
  obtain ⟨n, rfl⟩ := Nat.exists_eq_add_one.mpr (Nat.zero_lt_of_lt enough)
  have tail : s <:+ whole := (List.suffix_cons _ s).trans inside
  have read := walkText Scan.endsQuoted tail n (by omega) w
  rw [quoted, walkThen (walkPlace inside), walkThen (walkEnter inside), Scan.quoted, performBind]
  generalize perform (Scan.text exec Scan.endsQuoted s) w = o at read ⊢
  obtain ⟨⟨stop | t, k⟩, w₁⟩ := o
  · rw [walkStops read]
    rfl
  · have rest : s.drop k <:+ whole := (List.drop_suffix k s).trans tail
    rw [walkThen read, walkThen (walkPeek rest)]
    cases closes : s.drop k with
    | nil =>
      simp only [landing, Outcome.fault, performPure, closes, List.isEmpty_nil, if_true]
      rfl
    | cons c r =>
      have past : s.drop (k + 1) = r := by rw [← List.drop_drop, closes]; rfl
      rw [closes] at rest
      simp only [closes, List.head?_cons, List.isEmpty_cons, Bool.false_eq_true, if_false]
      rw [walkThen (walkBump rest)]
      simp only [landing, performPure, past]
      rfl
termination_by rounds

theorem walkCall {s : List Char} (inside : '$' :: s <:+ whole) (rounds : Nat)
    (enough : 3 * s.length + 1 < rounds) (w : W) :
    walk (call exec rounds) (.before whole pushed ('$' :: s) w) =
      landing whole pushed s (perform (Scan.call exec s) w) := by
  obtain ⟨n, rfl⟩ := Nat.exists_eq_add_one.mpr (Nat.zero_lt_of_lt enough)
  have tail : s <:+ whole := (List.suffix_cons _ s).trans inside
  rw [call, walkThen (walkEnter inside)]
  by_cases opens : s.head? = some '('
  · obtain ⟨body, rfl⟩ := List.head?_eq_some_iff.mp opens
    obtain ⟨gap, r, rfl, blank, size, visible⟩ := Grammar.gapOf body
    have within : gap ++ r <:+ whole := (List.suffix_cons _ _).trans tail
    have rest : r <:+ whole := (List.suffix_append _ _).trans within
    simp only [List.length_cons, List.length_append] at enough
    have named := walkIdentifier rest n (by omega) w
    rw [walkThen (walkEat tail), Scan.call, size, List.drop_left, performBind]
    simp only [if_true]
    rw [walkThen (walkSkip blank visible within (by omega))]
    generalize perform (Scan.identifier exec r) w = o at named ⊢
    obtain ⟨⟨stop | id, k⟩, w₁⟩ := o
    · rw [walkStops named]
      simp only [landing, performPure, dropGap]
      rfl
    · have passed := walkParameters ((List.drop_suffix k r).trans rest) n
        (by rw [List.length_drop]; omega) w₁
      rw [walkThen named, ← List.drop_drop, List.drop_left]
      simp only [performBind]
      generalize perform (Scan.parameters exec (r.drop k)) w₁ = o at passed ⊢
      obtain ⟨⟨stop | ps, j⟩, w₂⟩ := o
      · rw [walkStops passed]
        simp only [landing, performPure, Nat.add_assoc _ k j, dropGap, List.drop_drop]
        rfl
      · rw [walkThen passed, walkAnswer]
        simp only [performBind]
        generalize perform (exec id ps) w₂ = o
        obtain ⟨f | v, w₃⟩ := o
        · simp only [landing, performPure, Nat.add_assoc _ k j, dropGap, List.drop_drop]
          rfl
        · simp only [landing, performPure, Nat.add_assoc _ k j, dropGap, List.drop_drop]
          rfl
  · rw [walkThen (walkEatOther tail opens), Scan.callUnopened exec opens]
    simp only [Bool.false_eq_true, if_false]
    rw [walkThen (walkPlace tail)]
    rfl
termination_by rounds

theorem walkIdentifier {s : List Char} (inside : s <:+ whole) (rounds : Nat)
    (enough : 3 * s.length + 1 < rounds) (w : W) :
    walk (identifier exec rounds) (.before whole pushed s w) =
      landing whole pushed s (perform (Scan.identifier exec s) w) := by
  obtain ⟨n, rfl⟩ := Nat.exists_eq_add_one.mpr (Nat.zero_lt_of_lt enough)
  have named := walkText Scan.endsName inside n (by omega) w
  rw [identifier, walkThen (walkPlace inside), Scan.identifier, performBind]
  generalize perform (Scan.text exec Scan.endsName s) w = o at named ⊢
  obtain ⟨⟨stop | name, k⟩, w₁⟩ := o
  · rw [walkStops named]
    rfl
  · rw [walkThen named]
    exact walkIdentifierOf inside name k (by omega)
termination_by rounds

theorem walkParameters {s : List Char} (inside : s <:+ whole) (rounds : Nat)
    (enough : 3 * s.length + 1 < rounds) (w : W) :
    walk (parameters exec rounds) (.before whole pushed s w) =
      landing whole pushed s (perform (Scan.parameters exec s) w) := by
  obtain ⟨n, rfl⟩ := Nat.exists_eq_add_one.mpr (Nat.zero_lt_of_lt enough)
  obtain ⟨gap, r, rfl, blank, -, visible⟩ := Grammar.gapOf s
  have rest : r <:+ whole := (List.suffix_append _ _).trans inside
  rw [List.length_append] at enough
  -- The walker skips blanks at once, where the scanner has a turn for each of them.
  rw [parameters, walkThen (walkSkip blank visible inside (by omega)), walkThen (walkPeek rest),
    Grammar.parametersBlanks blank, ← landingBehind, List.drop_left]
  cases r with
  | nil => 
    simp only [List.head?_nil]
    rw [walkThen (walkPlace rest), Scan.parameters]
    rfl
  | cons c r =>
    have tail : r <:+ whole := (List.suffix_cons _ r).trans rest
    rw [List.length_cons] at enough
    rw [Scan.parameters, if_neg (by simp [visible c rfl])]
    simp only [List.head?_cons]
    split
    · rename_i same
      subst same
      rw [walkThen (walkBump rest)]
      rfl
    · split
      · rename_i same
        subst same
        have first := walkParameter tail n (by omega) w
        rw [walkThen (walkBump rest), performBind]
        generalize perform (Scan.parameter exec r) w = o at first ⊢
        obtain ⟨⟨stop | p, k⟩, w₁⟩ := o
        · rw [walkStops first]
          rfl
        · have more := walkParameters ((List.drop_suffix k r).trans tail) n
            (by rw [List.length_drop]; omega) w₁
          rw [walkThen first]
          simp only [performBind]
          generalize perform (Scan.parameters exec (r.drop k)) w₁ = o at more ⊢
          obtain ⟨⟨stop | ps, j⟩, w₂⟩ := o
          · rw [walkStops more]
            simp only [landing, performPure, dropPast]
            rfl
          · rw [walkThen more]
            simp only [landing, performPure, dropPast]
            rfl
      · rw [walkThen (walkPlace rest)]
        rfl
termination_by rounds

theorem walkParameter {s : List Char} (inside : s <:+ whole) (rounds : Nat)
    (enough : 3 * s.length + 1 < rounds) (w : W) :
    walk (parameter exec rounds) (.before whole pushed s w) =
      landing whole pushed s (perform (Scan.parameter exec s) w) := by
  obtain ⟨n, rfl⟩ := Nat.exists_eq_add_one.mpr (Nat.zero_lt_of_lt enough)
  have named := walkText Scan.endsOption inside n (by omega) w
  rw [parameter, Scan.parameter, performBind]
  generalize perform (Scan.text exec Scan.endsOption s) w = o at named ⊢
  obtain ⟨⟨stop | option, k⟩, w₁⟩ := o
  · rw [walkStops named]
    rfl
  · have rest : s.drop k <:+ whole := (List.drop_suffix k s).trans inside
    rw [walkThen named]
    by_cases colon : (s.drop k).head? = some ':'
    · obtain ⟨r, parts⟩ := List.head?_eq_some_iff.mp colon
      have behind : s.drop (k + 1) = r := by rw [← List.drop_drop, parts]; rfl
      have past (j : Nat) : s.drop (k + 1 + j) = r.drop j := by rw [← List.drop_drop, behind]
      have shorter : r.length < s.length := by
        have sizes := congrArg List.length parts
        rw [List.length_drop, List.length_cons] at sizes
        omega
      rw [parts] at rest
      have valued := walkText Scan.endsValue ((List.suffix_cons _ r).trans rest) n (by omega) w₁
      rw [parts, walkThen (walkEat rest)]
      simp only [if_true, colon, behind, performBind]
      generalize perform (Scan.text exec Scan.endsValue r) w₁ = o at valued ⊢
      obtain ⟨⟨stop | value, j⟩, w₂⟩ := o
      · rw [walkStops valued]
        simp only [landing, performPure, past]
        rfl
      · rw [walkThen valued]
        simp only [landing, performPure, past]
        rfl
    · rw [walkThen (walkEatOther rest colon)]
      simp only [Bool.false_eq_true, if_false, colon]
      rfl
termination_by rounds

end

end Walk
end Descriptor
