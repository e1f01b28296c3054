import StoryLoom.Pattern.Reader.Bracket
import StoryLoom.Proofs.Pattern.Closing.Input

/-!
# Member — escapes and sets with the end of a group behind them

- `carried_escape`   : reading an escape carries over
- `joinsRange_closing`, `asciiSetOf?_closing`, `setOp?_closing` : what is decided by looking ahead
- `carries_brackets` : reading a set in brackets carries over
-/

namespace StoryLoom
namespace Pattern
namespace Read

variable {α β : Type} {s : Input} {c : Char}

/-! ## Escapes -/

theorem carries_negateIf (negated : Bool) (k : CharSet) :
    CarriesOver (negateIf negated k) :=
  carries_ite (carries_pure k) (carries_flags.bind fun _ => carries_ite carries_failure (carries_pure _))

theorem carries_classLetter (negated : Bool) (all ascii : CharSet) :
    CarriesOver (classLetter negated all ascii) :=
  carries_flags.bind fun _ => (carries_negateIf negated _).bind fun _ => carries_pure _

/-- A name in braces ends at its brace. -/
theorem carries_bracedName {n : Nat} {m : Line → Nat} (le : ∀ l, n ≤ m l) (name : List Char) :
    Carries (bracedName n name) fun l => bracedName (m l) name := by
  induction n generalizing m name with
  | zero => exact carries_failure
  | succ n ih =>
    obtain ⟨m, rfl, fewer⟩ := exists_pred le
    refine fun s => .peek_bind fun c here => ?_
    split
    · exact (carried_bump_one here).bind fun _ => carries_pure _
    · exact (carried_bumpSpace here).bind fun _ => ih fewer _

theorem carries_propertySet (negated : Bool) (name : List Char) :
    CarriesOver (propertySet negated name) := by
  refine carries_flags.bind fun flags => carries_ite carries_failure ?_
  cases property? name with
  | none => exact carries_failure
  | some k => exact (carries_negateIf negated _).bind fun _ => carries_pure _

theorem carries_property (negated : Bool) : CarriesOver (property negated) := by
  refine carries_bumpInside.bind fun _ s => .peek_bind fun c here => ?_
  split
  · refine (carried_bumpSpace here).bind fun _ s => .get_bind ?_
    have braced := carries_bracedName (fun l => Nat.succ_le_succ (s.length_le_closed l)) [] s
    exact braced.left.bind fun name => carries_propertySet negated name
  · exact .of_none
  · exact (carried_bumpSpace here).bind fun _ => carries_propertySet negated [c]

/-- A word boundary may be named, or the brace belongs to a count. -/
theorem carried_boundaryName {n : Nat} {m : Line → Nat} (name : List Char) (few : s.rest.length ≤ n)
    (le : ∀ l, n ≤ m l) : Carried s (boundaryName n name s) (fun l => boundaryName (m l) name s)
      fun l => boundaryName (m l) name (s.closed l) :=
  carried_rounds boundaryName (fun _ => rfl) (fun _ _ => rfl) (by decide) name few le

theorem carries_namedBoundary (ascii : Bool) : CarriesOver (namedBoundary ascii) := by
  intro s
  have name := carried_boundaryName [] (Nat.le_refl s.rest.length) s.length_le_closed
  refine .get_bind (name.left.bind fun name => (carries_expect _).bind fun _ => ?_)
  cases boundary? ascii name with
  | none => exact carries_failure
  | some a => exact carries_pure _

/-- Whether a name follows is decided by the character behind the brace. -/
theorem wordBoundary_apply (s : Input) : wordBoundary s =
    if s.rest.head? = some '\x7b' then
      ((bumpInside >>= fun _ => peek) s).bind fun (c, _) =>
        if c.isAlpha || c == '-' then (bumpInside >>= fun _ => namedBoundary s.flags.asciiOnly) s
        else some (.assertion (.wordEdge s.flags.asciiOnly), s)
    else some (.assertion (.wordEdge s.flags.asciiOnly), s) := by
  change (if s.rest.head? = some '\x7b' then _ else _ : Read Primitive) s = _
  split
  · change ((bumpInside s).bind fun p => (peek >>= _) p.2) =
      ((bumpInside s).bind fun p => peek p.2).bind _
    cases inside : bumpInside s with
    | none => rfl
    | some p =>
      obtain ⟨_, ⟨rest, flags, names, groups⟩⟩ := p
      cases rest with
      | nil => rfl
      | cons c rest =>
        change (if c.isAlpha || c == '-' then _ else _ : Read Primitive) _ =
          if c.isAlpha || c == '-' then ((bumpInside s).bind fun p => _) else _
        rw [inside]
        split <;> rfl
  · rfl

theorem carries_wordBoundary : CarriesOver wordBoundary := by
  intro s
  have edge : Carried s (some (Primitive.assertion (.wordEdge s.flags.asciiOnly), s))
    (fun _ => some (.assertion (.wordEdge s.flags.asciiOnly), s))
    fun l => some (.assertion (.wordEdge s.flags.asciiOnly), s.closed l) := .of_some _ List.suffix_rfl
  have named : CarriesOver (bumpInside >>= fun _ => namedBoundary s.flags.asciiOnly) :=
    carries_bumpInside.bind fun _ => carries_namedBoundary _
  have next : CarriesOver (bumpInside >>= fun _ => peek) :=
    carries_bumpInside.bind fun _ => carries_peek
  have brace : ∀ l, (s.closed l).rest.head? = some '\x7b' ↔ s.rest.head? = some '\x7b' := by
    intro l
    rw [Input.closed]
    cases s.rest <;> simp [closing]
  simp only [wordBoundary_apply, brace]
  split
  · cases seen : (bumpInside >>= fun _ => peek) s with
    | none => exact .of_none
    | some p =>
      obtain ⟨c, s'⟩ := p
      obtain ⟨-, -, closed⟩ := next s c s' seen
      -- The same character is seen with `closing` behind.
      obtain ⟨t, seen'⟩ :
          ∃ t : Line → Input, ∀ l, (bumpInside >>= fun _ => peek) (s.closed l) = some (c, t l) :=
        closed.elim (fun h => ⟨s'.closed, h⟩) fun h => ⟨fun _ => s', h.2⟩
      simp only [seen', Option.bind_some]
      split
      · exact named s
      · exact edge
  · exact edge

theorem carries_hexEscape (digits : Nat) : CarriesOver (hexEscape digits) := by
  refine carries_bumpInside.bind fun _ s => .peek_bind fun c here => ?_
  split
  · refine (carried_bumpSpace here).bind fun _ s => .get_bind ?_
    have braced := carries_bracedHex (fun l => Nat.succ_le_succ (s.length_le_closed l)) 0 false s
    exact braced.left.bind fun _ => (carries_charOf _).bind fun _ => carries_pure _
  · exact (carries_hexDigits digits 0 s).bind fun _ => carries_flags.bind fun _ =>
      carries_ite carries_failure ((carries_charOf _).bind fun _ => carries_pure _)

/-- What follows a backslash is escaped, and a backslash at the end is an error. -/
theorem carried_escape (here : s.rest.head? = some '\\') :
    Carried s (escape s) (fun _ => escape s) fun l => escape (s.closed l) := by
  refine (carried_bump_one here).bind fun _ s => .peek_bind fun c here => ?_
  split
  · exact carries_hexEscape 2 s
  · exact carries_hexEscape 4 s
  · exact carries_hexEscape 8 s
  · exact carries_property false s
  · exact carries_property true s
  · refine (carried_bump_one here).bind fun _ => carries_flags.bind fun flags => ?_
    split
    · exact carries_classLetter _ _ _
    · exact carries_classLetter _ _ _
    · exact carries_classLetter _ _ _
    · exact carries_classLetter _ _ _
    · exact carries_classLetter _ _ _
    · exact carries_classLetter _ _ _
    · exact carries_pure _
    · exact carries_pure _
    · exact carries_pure _
    · exact carries_pure _
    · exact carries_pure _
    · exact carries_pure _
    · exact carries_pure _
    · exact carries_pure _
    · exact carries_wordBoundary
    · exact carries_pure _
    · exact carries_pure _
    · exact carries_pure _
    · exact carries_ite (carries_pure _) carries_failure

/-! ## Sets in brackets -/

theorem carries_setMember : CarriesOver setMember := by
  refine fun s => .peek_bind fun c here => ?_
  split
  · rename_i backslash
    subst backslash
    exact carried_escape here
  · exact (carried_bump_one here).bind fun _ => carries_pure _

theorem carries_setLiteral (c : Char) : CarriesOver (setLiteral c) :=
  carries_flags.bind fun _ => carries_ite carries_failure (carries_pure c)

theorem head?_closing (cs : List Char) (l : Line) :
    (cs ++ closing l).head? = cs.head?.or (some ')') := by
  cases cs <;> rfl

/-- Looking past blanks does not look past the parenthesis. -/
theorem behindBlanks_closing (cs : List Char) (l : Line) :
    behindBlanks (cs ++ closing l) = behindBlanks cs ++ closing l := by
  have stays := fun cs => dropWhile_closing Text.isBlank (by decide) cs l
  simp only [behindBlanks, stays]
  cases cs.dropWhile Text.isBlank with
  | nil => rfl
  | cons c rest =>
    simp only [List.cons_append, List.head?_cons, List.drop_succ_cons, List.drop_zero, stays]
    split <;> rfl

/-- A hyphen or a bracket is found behind a hyphen just if it is found with `closing` behind. -/
theorem afterHyphen_closing (spaced : Bool) (cs : List Char) (bracket : c = ']' ∨ c = '-') (l : Line) :
    afterHyphen spaced (cs ++ closing l) = some c ↔ afterHyphen spaced cs = some c := by
  have other : ')' ≠ c := by rcases bracket with rfl | rfl <;> decide
  cases spaced with
  | false =>
    change (cs ++ closing l).head? = some c ↔ cs.head? = some c
    rw [head?_closing]
    cases cs <;> simp [other]
  | true =>
    change (behindBlanks (cs ++ closing l)).head?.or _ = some c ↔ (behindBlanks cs).head?.or _ = some c
    rw [behindBlanks_closing, head?_closing]
    cases found : behindBlanks cs with
    | nil =>
      -- Neither of the two is skipped.
      have front : cs.head? ≠ some c := by
        intro here
        obtain ⟨rest, rfl⟩ := List.head?_eq_some_iff.1 here
        rcases bracket with rfl | rfl <;> cases found
      simp [other, front]
    | cons d rest => simp

/-- Whether a hyphen joins a range does not depend on what stands behind the text. -/
theorem joinsRange_closing (spaced : Bool) {cs : List Char} (any : cs ≠ []) (l : Line) :
    joinsRange spaced (cs ++ closing l) = joinsRange spaced cs := by
  cases cs with
  | nil => exact absurd rfl any
  | cons c cs =>
    have found : ∀ d, d = ']' ∨ d = '-' →
        (afterHyphen spaced (cs ++ closing l) == some d) = (afterHyphen spaced cs == some d) := by
      intro d bracket
      rw [Bool.eq_iff_iff, beq_iff_eq, beq_iff_eq]
      exact afterHyphen_closing spaced cs bracket l
    rw [List.cons_append]
    unfold joinsRange
    by_cases joins : c = '-'
    · subst joins
      simp only [found _ (.inl rfl), found _ (.inr rfl)]
    · simp [joins]

theorem carries_setRange : CarriesOver setRange := by
  refine carries_setMember.bind fun first => carries_skipSpace.bind fun _ s => ?_
  refine .peek_bind fun c here => .get_bind ?_
  -- Whether two members are joined is seen from what follows, which is not all of the end yet.
  have some : s.rest ≠ [] := by
    intro none
    rw [none] at here
    cases here
  have same : ∀ l, joinsRange (s.closed l).flags.spaced (s.closed l).rest =
      joinsRange s.flags.spaced s.rest := joinsRange_closing s.flags.spaced some
  simp only [same]
  split
  · refine (carries_bumpInside s).bind fun _ => carries_setMember.bind fun last => ?_
    split
    · exact carries_ite ((carries_setLiteral _).bind fun _ => (carries_setLiteral _).bind fun _ =>
        carries_pure _) carries_failure
    · exact carries_failure
  · cases first with
    | literal c => exact (carries_setLiteral c s).bind fun _ => carries_pure _
    | set k => exact carries_pure k s
    | assertion a => exact .of_none

/-- No set has a parenthesis in its name. -/
theorem named?_eq_none_of_mem {name : String} (h : ')' ∈ name.toList) :
    CharSet.named? name = none := by
  unfold CharSet.named?
  split
  case h_15 => rfl
  all_goals exact absurd h (by decide)

/-- What stands in front of a character that is found in a text is found with `closing` behind too. -/
theorem span_closing {holds : Char → Bool} {cs : List Char} (found : cs.dropWhile holds ≠ []) (l : Line) :
    (cs ++ closing l).takeWhile holds = cs.takeWhile holds ∧
      (cs ++ closing l).dropWhile holds = cs.dropWhile holds ++ closing l := by
  constructor
  · have parts := congrArg List.length (List.takeWhile_append_dropWhile (p := holds) (l := cs))
    have := List.length_pos_iff.2 found
    rw [List.length_append] at parts
    rw [List.takeWhile_append, if_neg (by omega)]
  · rw [List.dropWhile_append, if_neg (by simpa using found)]

/-- A set between colons is found in the source or not at all. -/
theorem asciiSetOf?_closing (cs : List Char) (l : Line) : asciiSetOf? (cs ++ closing l) =
    (asciiSetOf? cs).map fun (negated, k, rest) => (negated, k, rest ++ closing l) := by
  have start : "[:".toList.isPrefixOf (cs ++ closing l) = "[:".toList.isPrefixOf cs :=
    isPrefixOf_closing (by decide) cs l
  rw [asciiSetOf?, asciiSetOf?, start]
  split
  · rename_i comes
    have long : 2 ≤ cs.length := (List.isPrefixOf_iff_prefix.1 comes).length_le
    have inside : (cs ++ closing l).drop 2 = cs.drop 2 ++ closing l :=
      List.drop_append_of_le_length long
    have mark : (((cs ++ closing l).drop 2).head? == some '^') = ((cs.drop 2).head? == some '^') := by
      rw [inside, head?_closing]
      cases cs.drop 2 <;> rfl
    have enough : (if ((cs.drop 2).head? == some '^') = true then 3 else 2) ≤ cs.length := by
      split
      · rename_i negated
        obtain ⟨rest, behind⟩ := List.head?_eq_some_iff.1 (beq_iff_eq.1 negated)
        have := congrArg List.length behind
        rw [List.length_drop, List.length_cons] at this
        omega
      · exact long
    simp only [mark, List.drop_append_of_le_length enough]
    generalize cs.drop (if ((cs.drop 2).head? == some '^') = true then 3 else 2) = name
    by_cases found : name.dropWhile (· != ':') = []
    -- Where no colon ends the name in the text, the parenthesis of `closing` would be part of it.
    · have whole : name.takeWhile (· != ':') = name := by
        simpa [found] using List.takeWhile_append_dropWhile (p := (· != ':')) (l := name)
      have unknown : CharSet.named? (String.ofList ((name ++ closing l).takeWhile (· != ':'))) = none := by
        apply named?_eq_none_of_mem
        rw [List.takeWhile_append, if_pos (congrArg List.length whole), String.toList_ofList]
        exact List.mem_append_right _ List.mem_cons_self
      rw [found, unknown]
      split <;> rfl
    · obtain ⟨same, behind⟩ := span_closing found l
      have ends : ":]".toList.isPrefixOf (name.dropWhile (· != ':') ++ closing l) =
          ":]".toList.isPrefixOf (name.dropWhile (· != ':')) := isPrefixOf_closing (by decide) _ l
      rw [same, behind, ends]
      split
      · rename_i closes
        have long : 2 ≤ (name.dropWhile (· != ':')).length :=
          (List.isPrefixOf_iff_prefix.1 closes).length_le
        rw [List.drop_append_of_le_length long]
        cases CharSet.named? (String.ofList (name.takeWhile (· != ':'))) <;> rfl
      · rfl
  · rfl

/-- Reading such a set leaves an end of the input. -/
theorem suffix_of_asciiSetOf? {cs rest : List Char} {negated : Bool} {k : CharSet}
    (h : asciiSetOf? cs = some (negated, k, rest)) : rest <:+ cs := by
  rw [asciiSetOf?] at h
  simp only [Option.ite_none_right_eq_some, Option.map_eq_some_iff] at h
  obtain ⟨-, -, _, -, same⟩ := h
  cases same
  exact (List.drop_suffix _ _).trans ((List.dropWhile_suffix _).trans (List.drop_suffix _ _))

theorem carries_asciiSet? : CarriesOver asciiSet? := by
  refine fun s => .get_bind ?_
  have closed : ∀ l, asciiSetOf? (s.closed l).rest = _ := asciiSetOf?_closing s.rest
  simp only [closed]
  cases h : asciiSetOf? s.rest with
  | none => exact carries_pure none s
  | some found =>
    obtain ⟨negated, k, rest⟩ := found
    have dropped : Carried s ((set { s with rest := rest } : Read Unit) s)
        (fun _ => (set { s with rest := rest } : Read Unit) s)
        fun l => (set (({ s with rest := rest } : Input).closed l) : Read Unit) (s.closed l) :=
      .of_some _ (suffix_of_asciiSetOf? h)
    exact dropped.bind fun _ => (carries_negateIf negated _).bind fun _ => carries_pure _

/-- Hyphens at the front of a set are its members. -/
theorem carried_leadingHyphens {n : Nat} {m : Line → Nat} (members : Members) (some : s.rest ≠ [])
    (few : s.rest.length ≤ n) (le : ∀ l, n ≤ m l) :
    Carried s (leadingHyphens n members s) (fun l => leadingHyphens (m l) members s)
      fun l => leadingHyphens (m l) members (s.closed l) := by
  induction n generalizing m members s with
  | zero => exact absurd (List.length_eq_zero_iff.1 (Nat.le_zero.1 few)) some
  | succ n ih =>
    obtain ⟨m, rfl, fewer⟩ := exists_pred le
    refine .peek_bind fun c here => ?_
    split
    · refine (carries_bumpInside s).bind_of fun _ s' done => ?_
      obtain ⟨rest, split⟩ := List.head?_eq_some_iff.1 here
      obtain ⟨suffix, left⟩ := of_bumpInside split done
      rw [split] at few
      exact ih _ left (Nat.le_trans suffix.length_le (Nat.le_of_succ_le_succ few)) fewer
    · exact carries_pure members s

/-- A set begins with its negation, its hyphens and perhaps a bracket. -/
theorem carried_setStart (negated : Bool) (some : s.rest ≠ []) :
    Carried s (setStart negated s) (fun _ => setStart negated s)
      fun l => setStart negated (s.closed l) := by
  have hyphens := carried_leadingHyphens {} some (Nat.le_refl s.rest.length) s.length_le_closed
  refine .get_bind (hyphens.left.bind fun members => carries_peek.bind fun c => ?_)
  exact carries_ite (carries_bumpInside.bind fun _ => carries_pure _) (carries_pure _)

theorem carries_setOpening : CarriesOver setOpening := by
  refine carries_bumpInside.bind fun _ s => .peek_bind fun c here => ?_
  obtain ⟨rest, split⟩ := List.head?_eq_some_iff.1 here
  split
  · exact (carries_bumpInside s).bind_of fun _ s' done =>
      carried_setStart true (of_bumpInside split done).2
  · exact carried_setStart false (split ▸ List.cons_ne_nil c rest)

/-- Operators between sets are two characters inside the source. -/
theorem setOp?_closing {cs : List Char} (some : cs ≠ []) (l : Line) :
    setOp? (cs ++ closing l) = setOp? cs := by
  cases cs with
  | nil => exact absurd rfl some
  | cons c cs =>
    cases cs with
    | nil =>
      -- The parenthesis of `closing` is no second half of an operator.
      by_cases same : c = ')'
      · subst same
        rfl
      · simp [setOp?, closing, same]
    | cons d cs => rfl

theorem two_le_of_setOp? {cs : List Char} {op : SetOp} (h : setOp? cs = some op) : 2 ≤ cs.length := by
  unfold setOp? at h
  split at h
  · simp
  · cases h

/-- A set is read alike, and so are its members, by induction on the room for them. -/
theorem carries_brackets {n : Nat} {m : Line → Nat} (le : ∀ l, n ≤ m l) :
    Carries (bracketed n) (fun l => bracketed (m l)) ∧ ∀ left members,
      Carries (setItems n left members) fun l => setItems (m l) left members := by
  induction n generalizing m with
  | zero => exact ⟨carries_failure, fun _ _ => carries_failure⟩
  | succ n ih =>
    -- Each member and each set inside takes one step, so both bounds go down together.
    obtain ⟨m, rfl, fewer⟩ := exists_pred le
    obtain ⟨inner, items⟩ := ih fewer
    refine ⟨?_, fun left members => ?_⟩
    · simp only [bracketed]
      refine carries_flags.bind fun flags => carries_setOpening.bind fun opening => ?_
      exact (items none _).bind fun k => (carries_negateIf _ _).bind fun _ => carries_pure _
    · simp only [setItems]
      refine carries_skipSpace.bind fun _ s => .peek_bind fun c here => .get_bind ?_
      obtain ⟨rest, split⟩ := List.head?_eq_some_iff.1 here
      have op : ∀ l, setOp? (s.closed l).rest = setOp? s.rest :=
        setOp?_closing (split ▸ List.cons_ne_nil c rest)
      simp only [op]
      split
      · exact (carried_bump_one here).bind fun _ => carries_pure _
      · cases h : setOp? s.rest with
        | some op =>
          exact (carried_bump (two_le_of_setOp? h)).bind fun _ => items _ _
        | none =>
          simp only []
          split
          · refine (carries_asciiSet? s).bind fun found => ?_
            cases found with
            | some k => exact items left _
            | none => exact inner.bind fun k => items left _
          · exact (carries_setRange s).bind fun k => items left _

end Read
end Pattern
end StoryLoom
