import StoryLoom.Pattern.Compile
import StoryLoom.Proofs.Pattern.Closing.Items
import StoryLoom.Proofs.Pattern.Spans

/-!
# Anchored — a pattern tied to both ends of a text

- `whole?_wrapped`     : what is tied to both ends is read as the pattern between two conditions
- `exprMeaning_lawful` : the library that reads patterns into expressions goes by what they match
- `accepts_whole_text` : in every library, a pattern that is valid by itself accepts the texts that match
  as a whole
- `parenthesis_closes_group` : a parenthesis of the source may close the group it is put in
-/

namespace StoryLoom
namespace Pattern
namespace Read

variable {α β : Type} {s s' : Input} {c : Char} {n : Nat}

/-! ## Reading what is put around a pattern -/

theorem bind_apply_of_some {x : Read α} {f : α → Read β} {a : α} (h : x s = some (a, s')) :
    (x >>= f) s = f a s' := by
  change (x s).bind _ = _
  rw [h]
  rfl

theorem bind_apply_of_none {x : Read α} {f : α → Read β} (h : x s = none) : (x >>= f) s = none := by
  change (x s).bind _ = _
  rw [h]
  rfl

/-- Outside verbose mode no space is skipped. -/
theorem skipSpace_apply (plain : s.flags.spaced = false) : skipSpace s = some ((), s) := by
  change some ((), if s.flags.spaced = true then _ else s) = _
  rw [plain]
  rfl

/-- No repetition mark comes next. -/
def Unmarked (s : Input) : Prop :=
  ∀ c, s.rest.head? = some c → ¬ IsMark c

/-- Where another character follows, nothing is repeated. -/
theorem unmarked_of_head? (here : s.rest.head? = some c) (other : ¬ IsMark c) : Unmarked s := by
  intro d next
  rwa [← Option.some.inj (here.symm.trans next)]

theorem unmarked_of_nil (none : s.rest = []) : Unmarked s := by
  intro c next
  rw [none] at next
  cases next

/-- Without a repetition mark the expression stays as it is. -/
theorem repetitions_apply (plain : s.flags.spaced = false) (unmarked : Unmarked s) (n : Nat)
    (e : Nested Expr) : repetitions n e s = some (e, s) := by
  cases n with
  | zero => rfl
  | succ n =>
    rw [repetitions, bind_apply_of_some (skipSpace_apply plain)]
    obtain ⟨rest, flags, names, groups⟩ := s
    cases rest with
    | nil => rfl
    | cons c rest =>
      obtain ⟨notMark, notBrace⟩ := not_or.1 (unmarked c rfl)
      have noMark : markBounds? c = none := by simpa using notMark
      have noBrace : some c ≠ some '\x7b' := fun brace => notBrace (Option.some.inj brace)
      rw [bind_apply_of_some (show peek? _ = some (some c, _) from rfl)]
      simp only [Option.bind_some, noMark, if_neg noBrace]
      rfl

section Items

variable {e : Nested Expr} {done : List (Nested Expr)}

/-- An item that begins with a character and ends before the next mark is the next one that is read. -/
theorem items_apply_of_some (plain : s.flags.spaced = false) (here : s.rest.head? = some c)
    (inside : c ≠ '|' ∧ c ≠ ')') (read : item n s = some (some e, s')) (plain' : s'.flags.spaced = false)
    (unmarked : Unmarked s') : items (n + 1) done s = items n (e :: done) s' := by
  obtain ⟨rest, flags, names, groups⟩ := s
  obtain ⟨rest, rfl⟩ := List.head?_eq_some_iff.1 here
  rw [items, bind_apply_of_some (skipSpace_apply plain),
    bind_apply_of_some (show peek? _ = some (some c, _) from rfl), if_neg (by simpa using inside),
    bind_apply_of_some read]
  exact bind_apply_of_some (repetitions_apply plain' unmarked n e)

/-- An item that cannot be read fails the whole sequence. -/
theorem items_apply_of_none (plain : s.flags.spaced = false) (here : s.rest.head? = some c)
    (inside : c ≠ '|' ∧ c ≠ ')') (failed : item n s = none) : items (n + 1) done s = none := by
  obtain ⟨rest, flags, names, groups⟩ := s
  obtain ⟨rest, rfl⟩ := List.head?_eq_some_iff.1 here
  rw [items, bind_apply_of_some (skipSpace_apply plain),
    bind_apply_of_some (show peek? _ = some (some c, _) from rfl), if_neg (by simpa using inside),
    bind_apply_of_none failed]

end Items

section Group

variable {rest : List Char} {es : List (Nested Expr)} {names : List (List Char)} {groups : Nat}

theorem groupOpening_apply : groupOpening ⟨'(' :: '?' :: ':' :: rest, {}, names, groups⟩ =
    some (.group none {}, ⟨rest, {}, names, groups⟩) := rfl

/-- A group that only brackets is read up to what closes it. -/
theorem item_group_apply (read : alternatives n ⟨rest, {}, names, groups⟩ = some (es, s)) :
    item (n + 1) ⟨'(' :: '?' :: ':' :: rest, {}, names, groups⟩ = (expect ')' s).bind fun p =>
      some (some ⟨(choice es).value, (choice es).depth + 1⟩, { p.2 with flags := {} }) := by
  rw [item, bind_apply_of_some (show flags _ = some ({}, _) from rfl),
    bind_apply_of_some (show peek _ = some ('(', _) from rfl)]
  simp only []
  rw [bind_apply_of_some groupOpening_apply]
  simp only []
  rw [bind_apply_of_some (show setFlags {} _ = some ((), _) from rfl), bind_apply_of_some read]
  rfl

end Group

/-- The pattern that ties another one to both ends of a text, with how deep its parts are nested. -/
def anchoredExpr (e : Nested Expr) : Nested Expr :=
  ⟨.seq [.assertion .textStart, e.value, .assertion .textEnd], e.depth + 2⟩

section Wrapped

variable {src : List Char} {es : List (Nested Expr)}

/-- A closed group is read as what is in it, one level deeper. -/
theorem alternatives_grouped (read : alternatives (n + 1) ⟨src, {}, [], 0⟩ = some (es, s))
    (closes : s.rest = [')']) : ∃ t, t.rest = [] ∧ alternatives (n + 4) ⟨"(?:".toList ++ src, {}, [], 0⟩ =
      some ([⟨(choice es).value, (choice es).depth + 1⟩], t) := by
  obtain ⟨rest, flags, names, groups⟩ := s
  subst closes
  have group : item (n + 2) ⟨"(?:".toList ++ src, {}, [], 0⟩ =
      some (some ⟨(choice es).value, (choice es).depth + 1⟩, ⟨[], {}, names, groups⟩) :=
    item_group_apply read
  have all : items (n + 3) [] ⟨"(?:".toList ++ src, {}, [], 0⟩ =
      some ([⟨(choice es).value, (choice es).depth + 1⟩], ⟨[], {}, names, groups⟩) := by
    rw [items_apply_of_some rfl rfl (by decide) group rfl (unmarked_of_nil rfl)]
    rfl
  refine ⟨⟨[], {}, names, groups⟩, rfl, ?_⟩
  rw [alternatives, bind_apply_of_some all]
  rfl

/-- The condition in front of the group is read first. -/
theorem items_start_apply : items (n + 4) [] ⟨"^(?:".toList ++ src, {}, [], 0⟩ =
    items (n + 3) [⟨.assertion .textStart, 0⟩] ⟨"(?:".toList ++ src, {}, [], 0⟩ :=
  items_apply_of_some rfl rfl (by decide) rfl rfl (unmarked_of_head? rfl (by decide))

/-- Where the group is closed, the condition behind it is read and nothing is left. -/
theorem alternatives_tied (read : alternatives (n + 1) ⟨src, {}, [], 0⟩ = some (es, s))
    (closes : s.rest = [')', '$']) : ∃ t, t.rest = [] ∧
      alternatives (n + 5) ⟨"^(?:".toList ++ src, {}, [], 0⟩ = some ([anchoredExpr (choice es)], t) := by
  obtain ⟨rest, flags, names, groups⟩ := s
  subst closes
  have group : item (n + 2) ⟨"(?:".toList ++ src, {}, [], 0⟩ =
      some (some ⟨(choice es).value, (choice es).depth + 1⟩, ⟨['$'], {}, names, groups⟩) :=
    item_group_apply read
  have last : item (n + 1) ⟨['$'], {}, names, groups⟩ =
      some (some ⟨.assertion .textEnd, 0⟩, ⟨[], {}, names, groups⟩) := rfl
  -- Three items are read: the condition in front, the group, and the condition behind it.
  have all : items (n + 4) [] ⟨"^(?:".toList ++ src, {}, [], 0⟩ =
      some ([⟨.assertion .textStart, 0⟩, ⟨(choice es).value, (choice es).depth + 1⟩,
        ⟨.assertion .textEnd, 0⟩], ⟨[], {}, names, groups⟩) := by
    rw [items_start_apply,
      items_apply_of_some rfl rfl (by decide) group rfl (unmarked_of_head? rfl (by decide)),
      items_apply_of_some rfl rfl (by decide) last rfl (unmarked_of_nil rfl)]
    rfl
  refine ⟨⟨[], {}, names, groups⟩, rfl, ?_⟩
  rw [alternatives, bind_apply_of_some all]
  change some ([sequence [_, _, _]], _) = _
  simp [anchoredExpr, sequence]

/-- Where the group is not closed, nothing is read. -/
theorem item_unclosed (read : alternatives (n + 1) ⟨src, {}, [], 0⟩ = some (es, s))
    (opens : s.rest = []) : item (n + 2) ⟨"(?:".toList ++ src, {}, [], 0⟩ = none := by
  obtain ⟨rest, flags, names, groups⟩ := s
  subst opens
  exact item_group_apply read

/-- Where the source swallows the closing parenthesis, the group stays open. -/
theorem alternatives_grouped_unclosed (read : alternatives (n + 1) ⟨src, {}, [], 0⟩ = some (es, s))
    (opens : s.rest = []) : alternatives (n + 4) ⟨"(?:".toList ++ src, {}, [], 0⟩ = none := by
  have failed : items (n + 3) [] ⟨"(?:".toList ++ src, {}, [], 0⟩ = none :=
    items_apply_of_none rfl rfl (by decide) (item_unclosed read opens)
  rw [alternatives, bind_apply_of_none failed]

/-- And so it does behind the mark of the start. -/
theorem alternatives_tied_unclosed (read : alternatives (n + 1) ⟨src, {}, [], 0⟩ = some (es, s))
    (opens : s.rest = []) : alternatives (n + 5) ⟨"^(?:".toList ++ src, {}, [], 0⟩ = none := by
  have failed : items (n + 4) [] ⟨"^(?:".toList ++ src, {}, [], 0⟩ = none := by
    rw [items_start_apply]
    exact items_apply_of_none rfl rfl (by decide) (item_unclosed read opens)
  rw [alternatives, bind_apply_of_none failed]

end Wrapped

section Whole

variable {pattern : List Char} {e : Nested Expr}

/-- What is read of a text as a whole. -/
theorem whole?_eq_some_iff : whole? pattern = some e ↔
    ∃ es s, alternatives (4 * pattern.length + 8) { rest := pattern } = some (es, s) ∧ s.rest = [] ∧
      e = choice es := by
  constructor
  · intro h
    obtain ⟨⟨es, s⟩, read, whole⟩ := Option.bind_eq_some_iff.1 h
    obtain ⟨done, whole⟩ := Option.ite_none_right_eq_some.1 whole
    exact ⟨es, s, read, List.isEmpty_iff.1 done, (Option.some.inj whole).symm⟩
  · rintro ⟨es, s, read, done, rfl⟩
    refine Option.bind_eq_some_iff.2 ⟨(es, s), read, ?_⟩
    exact Option.ite_none_right_eq_some.2 ⟨List.isEmpty_iff.2 done, rfl⟩

/-- What cannot be read in the room there is cannot be read. -/
theorem whole?_eq_none (failed : alternatives (4 * pattern.length + 8) { rest := pattern } = none) :
    whole? pattern = none := by
  rw [whole?]
  change (alternatives _ _).bind _ = none
  rw [failed]
  rfl

/-- What stands behind a pattern in a group: nothing, or the end of the text. -/
def behindGroup (tied : Bool) : Line :=
  ⟨if tied then ['$'] else [], by cases tied <;> decide⟩

/-- A pattern that can be read is read as the same in a group, and as the same between the two conditions,
unless a comment swallows what stands behind it. -/
theorem whole?_wrapped (h : whole? pattern = some e) :
    whole? (grouped pattern) = some ⟨e.value, e.depth + 1⟩ ∧
        whole? (tied pattern) = some (anchoredExpr e) ∨
      CommentOpen pattern ∧ whole? (grouped pattern) = none ∧ whole? (tied pattern) = none := by
  obtain ⟨es, s, read, done, rfl⟩ := whole?_eq_some_iff.1 h
  have long : 4 * (grouped pattern).length + 8 = 4 * pattern.length + 20 + 4 := by
    simp [grouped]
    omega
  have longer : 4 * (tied pattern).length + 8 = 4 * pattern.length + 27 + 5 := by
    simp [tied, grouped]
    omega
  have written : grouped pattern = "(?:".toList ++ (pattern ++ closing (behindGroup false)) :=
    List.append_assoc _ _ _
  have written' : tied pattern = "^(?:".toList ++ (pattern ++ closing (behindGroup true)) := by
    simp [tied, grouped, closing, behindGroup]
  -- Inside the group the text that stands for the pattern has `closing` behind it.
  have larger : ∀ l : Line, 4 * pattern.length + 8 < 4 * pattern.length + 20 + 7 * l.1.length + 1 := by
    intro l
    omega
  obtain ⟨-, -, carried⟩ := (carries_reader larger).1 { rest := pattern } es s read
  rcases carried with carried | ⟨isOpen, swallowed⟩
  · left
    have closes : ∀ l, (s.closed l).rest = closing l := by
      intro l
      rw [Input.closed, done]
      rfl
    obtain ⟨t, left, group⟩ := alternatives_grouped (carried (behindGroup false)) (closes _)
    obtain ⟨t', left', between⟩ := alternatives_tied (carried (behindGroup true)) (closes _)
    constructor
    · refine whole?_eq_some_iff.2 ⟨[_], t, ?_, left, rfl⟩
      rw [long, written]
      exact group
    · refine whole?_eq_some_iff.2 ⟨[_], t', ?_, left', rfl⟩
      rw [longer, written']
      exact between
  · right
    -- The parenthesis is swallowed with the comment, and the group is never closed.
    refine ⟨isOpen, whole?_eq_none ?_, whole?_eq_none ?_⟩
    · rw [long, written]
      exact alternatives_grouped_unclosed (swallowed (behindGroup false)) done
    · rw [longer, written']
      exact alternatives_tied_unclosed (swallowed (behindGroup true)) done

end Whole

end Read

/-! ## What expressions match -/

/-- A pattern is read as a whole, and nested no deeper than the limit. -/
theorem Expr.read?_eq_some_iff {source : List Char} {e : Expr} : Expr.read? source = some e ↔
    ∃ n, Read.whole? source = some n ∧ n.depth ≤ nestingLimit ∧ e = n.value := by
  rw [Expr.read?]
  cases Read.whole? source with
  | none => simp
  | some n => simp [eq_comm]

/-- A pattern that was read compiles if its machine fits. -/
theorem Expr.compile_eq_ok_iff {source : List Char} {e : Expr} : Expr.compile source = .ok e ↔
    Expr.read? source = some e ∧ e.fitsMachine = true := by
  rw [Expr.compile]
  cases Expr.read? source with
  | none =>
    refine ⟨nofun, ?_⟩
    rintro ⟨same, -⟩
    cases same
  | some e' =>
    cases fits : e'.fitsMachine with
    | false =>
      simp only [fits, Bool.false_eq_true, if_false]
      refine ⟨nofun, ?_⟩
      rintro ⟨same, fits'⟩
      cases same
      exact absurd fits' (by rw [fits]; exact Bool.false_ne_true)
    | true =>
      simp only [fits, if_true]
      constructor
      · intro same
        cases same
        exact ⟨rfl, fits⟩
      · rintro ⟨same, -⟩
        cases same
        rfl

section Conditions

variable {text : List Char} {i j : Nat}

/-- A condition that holds in one place alone. -/
theorem Expr.spans_assertion_iff {a : Assertion} {k : Nat} (place : a.places text = PosSet.single k)
    (inside : i ≤ text.length) : (Expr.assertion a).Spans text i j ↔ i = k ∧ j = k := by
  rw [Spans, ← a.testBit_places inside, place, PosSet.testBit_single]
  constructor
  · rintro ⟨rfl, rfl⟩
    exact ⟨rfl, rfl⟩
  · rintro ⟨rfl, rfl⟩
    exact ⟨rfl, rfl⟩

/-- A match that begins inside the text ends inside it. -/
theorem Expr.Spans.inside {e : Expr} (spans : e.Spans text i j) (inside : i ≤ text.length) :
    j ≤ text.length :=
  ((realizes_route text false e).forward i j inside spans).2

end Conditions

end Pattern

namespace Libraries

open Pattern

/-- The meaning of patterns that are read into expressions. -/
def exprMeaning : Meaning where
  WellFormed pattern := ∃ n, Read.whole? pattern = some n
  Fits pattern := ∀ n, Read.whole? pattern = some n →
    n.depth ≤ nestingLimit ∧ n.value.fitsMachine = true
  Matches pattern text i j := i ≤ text.length ∧ ∃ n, Read.whole? pattern = some n ∧ n.value.Spans text i j

section Reading

variable {pattern text : List Char} {n : Read.Nested Expr} {i j : Nat}

/-- A pattern matches where its expression spans. -/
theorem exprMeaning_matches_iff (read : Read.whole? pattern = some n) :
    exprMeaning.Matches pattern text i j ↔ i ≤ text.length ∧ n.value.Spans text i j := by
  refine and_congr_right fun _ => ⟨?_, fun spans => ⟨n, read, spans⟩⟩
  rintro ⟨n', read', spans⟩
  rwa [Option.some.inj (read.symm.trans read')]

/-- A pattern that is one assertion matches the empty text where the assertion holds. -/
theorem exprMeaning_condition_iff {a : Assertion} {k : Nat}
    (read : Read.whole? pattern = some ⟨.assertion a, 0⟩) (place : a.places text = PosSet.single k)
    (there : k ≤ text.length) : exprMeaning.Matches pattern text i j ↔ i = k ∧ j = k := by
  rw [exprMeaning_matches_iff read]
  constructor
  · rintro ⟨inside, spans⟩
    exact (Expr.spans_assertion_iff place inside).1 spans
  · rintro ⟨rfl, rfl⟩
    exact ⟨there, (Expr.spans_assertion_iff place there).2 ⟨rfl, rfl⟩⟩

/-- The marks of start and end leave the whole text to match. -/
theorem exprMeaning_tied_iff (group : Read.whole? (grouped pattern) = some ⟨n.value, n.depth + 1⟩)
    (between : Read.whole? (tied pattern) = some (Read.anchoredExpr n)) :
    exprMeaning.Matches (tied pattern) text i j ↔ ∃ k l, exprMeaning.Matches ['^'] text i k ∧
      exprMeaning.Matches (grouped pattern) text k l ∧ exprMeaning.Matches ['$'] text l j := by
  have start : Read.whole? ['^'] = some ⟨.assertion .textStart, 0⟩ := rfl
  have stop : Read.whole? ['$'] = some ⟨.assertion .textEnd, 0⟩ := rfl
  simp only [exprMeaning_matches_iff start, exprMeaning_matches_iff stop, exprMeaning_matches_iff group,
    exprMeaning_matches_iff between, Read.anchoredExpr, Expr.Spans, Expr.SpansAll]
  constructor
  · rintro ⟨inside, _, ⟨starts, rfl⟩, _, spans, _, ⟨ends, rfl⟩, rfl⟩
    exact ⟨_, _, ⟨inside, starts, rfl⟩, ⟨inside, spans⟩, spans.inside inside, ends, rfl⟩
  · rintro ⟨_, _, ⟨inside, starts, rfl⟩, ⟨-, spans⟩, -, ends, rfl⟩
    exact ⟨inside, _, ⟨starts, rfl⟩, _, spans, _, ⟨ends, rfl⟩, rfl⟩

end Reading

theorem exprMeaning_lawful : exprMeaning.Lawful where
  compiles_iff {pattern} := by
    constructor
    · rintro ⟨e, compiled⟩
      obtain ⟨read, fits⟩ := Expr.compile_eq_ok_iff.1 compiled
      obtain ⟨n, whole, shallow, rfl⟩ := Expr.read?_eq_some_iff.1 read
      refine ⟨⟨n, whole⟩, fun n' whole' => ?_⟩
      rw [← Option.some.inj (whole.symm.trans whole')]
      exact ⟨shallow, fits⟩
    · rintro ⟨⟨n, whole⟩, fits⟩
      obtain ⟨shallow, fits⟩ := fits n whole
      exact ⟨n.value, Expr.compile_eq_ok_iff.2 ⟨Expr.read?_eq_some_iff.2 ⟨n, whole, shallow, rfl⟩, fits⟩⟩
  occursIn_iff {pattern text e} := by
    intro compiled
    obtain ⟨n, whole, -, rfl⟩ := Expr.read?_eq_some_iff.1 (Expr.compile_eq_ok_iff.1 compiled).1
    simp only [exprMeaning_matches_iff whole]
    exact Expr.occursIn_iff
  start_iff := exprMeaning_condition_iff rfl rfl (Nat.zero_le _)
  stop_iff := exprMeaning_condition_iff rfl rfl (Nat.le_refl _)
  grouped_wellFormed := by
    -- Only a comment that runs on could swallow the end of the group.
    rintro pattern ⟨n, whole⟩ closed
    exact ⟨_, ((Read.whole?_wrapped whole).resolve_right fun swallowed => closed swallowed.1).1⟩
  grouped_iff := by
    rintro pattern text i j ⟨n, whole⟩ ⟨n', group'⟩
    rcases Read.whole?_wrapped whole with ⟨group, -⟩ | ⟨-, none, -⟩
    · rw [exprMeaning_matches_iff whole, exprMeaning_matches_iff group]
    · cases group'.symm.trans none
  tied_wellFormed_iff := by
    rintro pattern ⟨n, whole⟩
    rcases Read.whole?_wrapped whole with ⟨group, between⟩ | ⟨-, none, none'⟩
    · exact iff_of_true ⟨_, between⟩ ⟨_, group⟩
    · -- What swallows the end of the group swallows it with the end of the text behind it too.
      simp [exprMeaning, none, none']
  tied_iff := by
    rintro pattern text i j ⟨n, whole⟩ ⟨n', between'⟩
    rcases Read.whole?_wrapped whole with ⟨group, between⟩ | ⟨-, -, none⟩
    · exact exprMeaning_tied_iff group between
    · cases between'.symm.trans none

end Libraries

/-! ## What is accepted -/

namespace LegalPattern

open Pattern

/-- A source is accepted just if it is a pattern within the limits once it is tied to both ends of a text.
Of a source that is a pattern by itself, only a comment or the limits can prevent that, and then the legal
texts are those that match it as a whole. -/
theorem accepts_whole_text [PatternLibrary] {M : Meaning} (lawful : M.Lawful) (source : String) :
    ((∃ p, compile source = .ok p) ↔ M.WellFormed (anchored source) ∧ M.Fits (anchored source)) ∧
      (M.WellFormed source.toList →
        (¬ CommentOpen source.toList →
          ((∃ p, compile source = .ok p) ↔ M.Fits (anchored source))) ∧
        ∀ p, compile source = .ok p → ∀ text,
          p.accepts text = true ↔ M.Matches source.toList text 0 text.length) := by
  have succeeds := exists_compile_iff lawful source
  refine ⟨succeeds, fun valid => ⟨fun closed => ?_, fun p compiles => accepts_iff lawful valid compiles⟩⟩
  have between : M.WellFormed (anchored source) := by
    rw [anchored_eq_tied]
    exact (lawful.tied_wellFormed_iff valid).2 (lawful.grouped_wellFormed valid closed)
  exact succeeds.trans (and_iff_right between)

open Libraries

/-- Of two alternatives the second one matches the whole text. -/
theorem second_branch_matches :
    exprMeaning.Lawful ∧ exprMeaning.WellFormed "a|ab".toList ∧ ¬ CommentOpen "a|ab".toList ∧
      ∃ p, compile "a|ab" = .ok p ∧ p.accepts "ab".toList = true ∧
        exprMeaning.Matches "a|ab".toList "ab".toList 0 2 := by
  have valid : exprMeaning.WellFormed "a|ab".toList := ⟨_, rfl⟩
  have closed : ¬ CommentOpen "a|ab".toList := by
    rintro ⟨front, line, whole, -⟩
    have hash : '#' ∈ "a|ab".toList := whole ▸ List.mem_append_right _ List.mem_cons_self
    exact absurd hash (by decide)
  have fits : exprMeaning.Fits (anchored "a|ab") := by
    intro n read
    cases read
    exact ⟨by decide, by decide +kernel⟩
  have accepted : (compile "a|ab").toOption.map (fun p => p.accepts "ab".toList) = some true := by
    decide +kernel
  obtain ⟨-, wholes⟩ := accepts_whole_text exprMeaning_lawful "a|ab"
  obtain ⟨succeeds, legal⟩ := wholes valid
  obtain ⟨p, compiles⟩ := (succeeds closed).2 fits
  rw [compiles] at accepted
  have whole : p.accepts "ab".toList = true := Option.some.inj accepted
  exact ⟨exprMeaning_lawful, valid, closed, p, compiles, whole, (legal p compiles "ab".toList).1 whole⟩

/-- A parenthesis of the source may close the group that the source is put in: what is no pattern by itself
is accepted, and with it a text of which only a part matches. A comment of the source may swallow the
parenthesis that closes the group: what is a pattern by itself is refused. -/
theorem parenthesis_closes_group :
    (Expr.compile "a)|(?:b".toList).toOption.isSome = false ∧
      (compile "a)|(?:b").toOption.map (fun p => p.accepts "ax".toList) = some true ∧
      (Expr.compile "(?x)a#".toList).toOption.isSome = true ∧
      (compile "(?x)a#").toOption.isSome = false := by
  refine ⟨?_, ?_, ?_, ?_⟩ <;> decide +kernel

end LegalPattern
end StoryLoom
