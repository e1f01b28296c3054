import StoryLoom.Pattern.Reader
import StoryLoom.Proofs.Pattern.Closing.Member

/-!
# Items — alternatives with the end of a group behind them

- `readFlags_closing`   : the switches at the start of a group
- `StopsAtMarks`        : what fails where a repetition mark is left to be read
- `carries_repetitions` : repetition marks, which are read up to a bound
- `carries_reader`      : reading items and alternatives carries over, also to larger bounds
-/

namespace StoryLoom
namespace Pattern
namespace Read

variable {α β : Type} {s : Input} {c : Char}

/-! ## Switches and group names -/

/-- Flags that were read to their end are read the same. -/
theorem readFlags_closing {flags flags' : Flags} {seen read cs rest : List Char}
    (h : readFlags flags seen cs = some (flags', read, rest)) :
    rest <:+ cs ∧ rest ≠ [] ∧
      ∀ l, readFlags flags seen (cs ++ closing l) = some (flags', read, rest ++ closing l) := by
  induction cs generalizing flags seen with
  | nil => cases h
  | cons c cs ih =>
    have behind : ∀ {flags seen}, readFlags flags seen cs = some (flags', read, rest) →
        rest <:+ c :: cs ∧ rest ≠ [] ∧
          ∀ l, readFlags flags seen (cs ++ closing l) = some (flags', read, rest ++ closing l) :=
      fun h => (ih h).imp_left fun suffix => suffix.trans (List.suffix_cons c cs)
    rw [readFlags] at h
    simp only [List.cons_append, readFlags]
    split at h
    · -- The mark that ends the switches stands in the text itself.
      rename_i ends
      simp only [if_pos ends]
      split at h
      · cases h
      · rename_i complete
        cases h
        simp only [if_neg complete]
        exact ⟨List.suffix_rfl, List.cons_ne_nil c cs, fun _ => rfl⟩
    · rename_i goes
      simp only [if_neg goes]
      split at h
      · cases h
      · rename_i new
        simp only [if_neg new]
        split at h
        · rename_i hyphen
          simp only [if_pos hyphen]
          exact behind h
        · rename_i other
          simp only [if_neg other]
          cases flag : setFlag flags c (!seen.contains '-') with
          | none =>
            rw [flag] at h
            cases h
          | some flags =>
            rw [flag] at h
            exact behind h

theorem carries_groupName : CarriesOver groupName := by
  refine fun s => .get_bind ?_
  cases found : s.rest.dropWhile (· != '>') with
  | nil =>
    exact .of_none
  | cons c rest =>
    have parts := span_closing (found ▸ List.cons_ne_nil c rest)
    have closed : ∀ l, (s.closed l).rest = s.rest ++ closing l := fun _ => rfl
    have suffix : rest <:+ s.rest :=
      (List.suffix_cons c rest).trans (found ▸ List.dropWhile_suffix (· != '>'))
    simp only [closed, (parts _).1, (parts _).2, found]
    generalize s.rest.takeWhile (· != '>') = name
    -- Whether the name is refused depends on the name alone.
    change Carried s ((if (!isGroupName name || s.names.contains name) = true then _ else _ : Read Unit) s)
      (fun _ => (if (!isGroupName name || s.names.contains name) = true then _ else _ : Read Unit) s)
      fun l => (if (!isGroupName name || s.names.contains name) = true then _ else _ : Read Unit)
        (s.closed l)
    split
    · exact .of_none
    · exact .of_some { s with rest := rest, names := name :: s.names } suffix

theorem carries_groupNumber : CarriesOver groupNumber :=
  fun _ => .of_some _ List.suffix_rfl

/-! ## Repetitions -/

theorem carries_repeated (least : Nat) (most : Option Nat) (e : Nested Expr) :
    CarriesOver (repeated least most e) :=
  (carries_accept (by decide)).bind fun _ => carries_flags.bind fun _ => carries_pure _

theorem carries_bounds : CarriesOver bounds := by
  refine carries_decimal?.bind fun least => carries_peek.bind fun c => carries_ite ?_ ?_
  · refine carries_bumpInside.bind fun _ => carries_peek.bind fun c => carries_ite ?_ ?_
    · cases least with
      | none => exact carries_failure
      | some n => exact carries_pure _
    · refine carries_decimal?.bind fun most => ?_
      cases least with
      | none => exact carries_failure
      | some n =>
        cases most with
        | none => exact carries_failure
        | some m => exact carries_pure _
  · cases least with
    | none => exact carries_failure
    | some n => exact carries_pure _

theorem carries_counted (e : Nested Expr) : CarriesOver (counted e) := by
  refine carries_bumpInside.bind fun _ => carries_bounds.bind fun bounds => ?_
  obtain ⟨least, most⟩ := bounds
  refine fun s => .peek_bind fun c here => ?_
  split
  · exact (carried_bumpSpace here).bind fun _ => carries_ite (carries_repeated _ _ e) carries_failure
  · exact .of_none

/-- Whether a character is or begins a repetition mark. -/
def IsMark (c : Char) : Prop :=
  (markBounds? c).isSome = true ∨ c = '\x7b'

instance (c : Char) : Decidable (IsMark c) :=
  inferInstanceAs (Decidable (_ ∨ _))

/-- What fails where a repetition mark is left to be read, and begins with space to be skipped. -/
structure StopsAtMarks (k : Read α) : Prop where
  skips : (skipSpace >>= fun _ => k) = k
  stuck : ∀ s c, IsMark c → s.rest.head? = some c → k s = none

section Bounded

variable {k : Nested Expr → Read β} {k' : Line → Nested Expr → Read β}

/-- Where the bound is used up, no mark is left: what follows would fail at it. -/
theorem carries_used_up {e : Nested Expr} (next : Carries (k e) fun l => k' l e)
    (stops : StopsAtMarks (k e)) (m : Line → Nat) :
    Carries (k e) fun l => repetitions (m l + 1) e >>= k' l := by
  -- Only the second step still looks for a mark, and it skips the space in front of it first.
  rw [← stops.skips]
  simp only [repetitions, bind_assoc]
  refine carries_skipSpace.bind fun _ s => ?_
  change Carried s ((peek? >>= fun _ => k e) s) _ _
  refine .peek?_bind (fun c here => ?_) fun none => next s
  simp only [Option.bind_some]
  cases mark : markBounds? c with
  | some limits =>
    have isMark : IsMark c := .inl (by rw [mark]; rfl)
    rw [stops.stuck s c isMark here]
    exact .of_none
  | none =>
    simp only []
    split
    · rename_i brace
      rw [stops.stuck s c (.inr (Option.some.inj brace)) here]
      exact .of_none
    · exact next s

/-- Repetition marks are read up to a bound, and with a larger one no further, because what follows them
fails at a mark. -/
theorem carries_repetitions (next : ∀ e, Carries (k e) fun l => k' l e)
    (stops : ∀ e, StopsAtMarks (k e)) {n : Nat} {m : Line → Nat} (lt : ∀ l, n < m l) (e : Nested Expr) :
    Carries (repetitions n e >>= k) fun l => repetitions (m l) e >>= k' l := by
  induction n generalizing m e with
  | zero =>
    obtain ⟨m, rfl, -⟩ := exists_pred lt
    rw [repetitions, pure_bind]
    exact carries_used_up (next e) (stops e) m
  | succ n ih =>
    obtain ⟨m, rfl, less⟩ := exists_pred lt
    simp only [repetitions, bind_assoc]
    -- A mark takes a character, so the bound falls with what is left to read.
    refine carries_skipSpace.bind fun _ s => .peek?_bind (fun c here => ?_) fun none => next e s
    simp only [Option.bind_some]
    cases markBounds? c with
    | some limits =>
      obtain ⟨least, most⟩ := limits
      simp only [bind_assoc]
      exact (carried_bump_one here).bind fun _ =>
        (carries_repeated least most e).bind fun e => ih less e
    | none =>
      simp only []
      split
      · simp only [bind_assoc]
        exact (carries_counted e s).bind fun e => ih less e
      · exact next e s

end Bounded

/-! ## Groups -/

theorem carries_acceptNamed : CarriesOver acceptNamed :=
  (carries_accept (by decide)).bind fun _ => carries_ite (carries_pure true) (carries_accept (by decide))

/-- What opens a group is read before its end is looked for. -/
theorem carried_groupOpening (here : s.rest.head? = some '(') :
    Carried s (groupOpening s) (fun _ => groupOpening s) fun l => groupOpening (s.closed l) := by
  refine (carried_bumpSpace here).bind fun _ => carries_flags.bind fun flags => ?_
  refine (carries_accept (by decide)).bind fun _ => (carries_accept (by decide)).bind fun _ =>
    (carries_accept (by decide)).bind fun _ => (carries_accept (by decide)).bind fun _ => ?_
  refine carries_ite carries_failure (carries_acceptNamed.bind fun _ => carries_ite ?_ ?_)
  · exact carries_groupName.bind fun _ => carries_groupNumber.bind fun _ => carries_pure _
  · refine (carries_accept (by decide)).bind fun _ => carries_ite (fun s => .get_bind ?_) ?_
    · cases h : readFlags flags [] s.rest with
      | none => exact .of_none
      | some found =>
        obtain ⟨flags', read, rest⟩ := found
        obtain ⟨suffix, some, closed⟩ := readFlags_closing h
        obtain ⟨c, rest, rfl⟩ := List.exists_cons_of_ne_nil some
        have rest_closed : ∀ l, (s.closed l).rest = s.rest ++ closing l := fun _ => rfl
        simp only [rest_closed, closed]
        have dropped : Carried s ((modify fun s => { s with rest := rest } : Read Unit) s)
            (fun _ => (modify fun s => { s with rest := rest } : Read Unit) s)
            fun l => (modify fun s => { s with rest := rest ++ closing l } : Read Unit) (s.closed l) :=
          .of_some { s with rest := rest } ((List.suffix_cons c rest).trans suffix)
        exact dropped.bind fun _ => carries_ite (carries_pure _)
          (carries_ite carries_failure (carries_pure _))
    · exact carries_groupNumber.bind fun _ => carries_pure _

theorem carries_dot : CarriesOver dot := by
  refine carries_flags.bind fun flags => carries_ite carries_failure ?_
  exact carries_ite (carries_pure _) (carries_ite (carries_pure _) (carries_pure _))

/-! ## Items and alternatives -/

/-- No item begins with a repetition mark. -/
theorem items_stopsAtMarks (n : Nat) (done : List (Nested Expr)) : StopsAtMarks (items n done) where
  skips := by
    cases n with
    | zero => rfl
    | succ n => rw [items, ← bind_assoc, skipSpace_twice]
  stuck s c mark here := by
    have four : c = '?' ∨ c = '*' ∨ c = '+' ∨ c = '\x7b' := by
      rcases mark with mark | brace
      · unfold markBounds? at mark
        split at mark
        · exact .inl rfl
        · exact .inr (.inl rfl)
        · exact .inr (.inr (.inl rfl))
        · cases mark
      · exact .inr (.inr (.inr brace))
    obtain ⟨rest, ⟨_, _, _, spaced, _, _, _⟩, names, groups⟩ := s
    obtain ⟨rest, rfl⟩ := List.head?_eq_some_iff.1 here
    cases n with
    | zero => rfl
    | succ n =>
      -- A mark is neither blank nor the start of a comment, so that no space is skipped.
      cases n <;> cases spaced <;> rcases four with rfl | rfl | rfl | rfl <;> rfl

section Bounds

variable {n : Nat} {m : Line → Nat}

/-- Alternatives are separated within the source. -/
theorem carries_alternatives_succ (more : Carries (alternatives n) fun l => alternatives (m l))
    (others : ∀ done, Carries (items n done) fun l => items (m l) done) :
    Carries (alternatives (n + 1)) fun l => alternatives (m l + 1) := by
  simp only [alternatives]
  refine (others []).bind fun first s => .peek?_bind (fun c here => ?_) fun none => ?_
  · split
    · exact (carried_bump_one here).bind fun _ => more.bind fun _ => carries_pure _
    · exact carries_pure _ s
  · exact carries_pure _ s

/-- The parenthesis of `closing` ends items as the end of the text does. -/
theorem carries_items_succ (lt : ∀ l, n < m l)
    (others : ∀ done, Carries (items n done) fun l => items (m l) done)
    (one : Carries (item n) fun l => item (m l)) (done : List (Nested Expr)) :
    Carries (items (n + 1) done) fun l => items (m l + 1) done := by
  simp only [items]
  refine carries_skipSpace.bind fun _ s => .peek?_bind (fun c here => ?_) fun none => ?_
  · split
    · exact carries_pure _ s
    · refine (one s).bind fun read => ?_
      cases read with
      | none => exact others _
      | some e =>
        exact carries_repetitions (fun e => others (e :: done)) (fun e => items_stopsAtMarks n _) lt e
  · exact carries_pure _ s

/-- A group inside the source is closed inside it. -/
theorem carries_item_succ (lt : ∀ l, n < m l)
    (more : Carries (alternatives n) fun l => alternatives (m l)) :
    Carries (item (n + 1)) fun l => item (m l + 1) := by
  simp only [item]
  refine carries_flags.bind fun outer s => .peek_bind fun c here => ?_
  split
  · refine (carried_groupOpening here).bind fun opening => ?_
    -- Switches by themselves are an item; a group is read up to a parenthesis of its own.
    cases opening with
    | switches flags => exact (carries_setFlags flags).bind fun _ => carries_pure _
    | group number flags =>
      refine (carries_setFlags flags).bind fun _ => more.bind fun es => ?_
      exact (carries_expect _).bind fun _ => (carries_setFlags outer).bind fun _ => carries_pure _
  · exact ((carries_brackets fun l => Nat.le_of_lt (lt l)).1 s).bind fun k => carries_pure _
  · exact (carried_escape here).bind fun p => carries_pure _
  · exact (carried_bump_one here).bind fun _ => carries_dot.bind fun _ => carries_pure _
  · exact (carried_bump_one here).bind fun _ => carries_pure _
  · exact (carried_bump_one here).bind fun _ => carries_pure _
  · exact .of_none
  · exact .of_none
  · exact .of_none
  · exact .of_none
  · exact (carried_bump_one here).bind fun _ => carries_pure _

/-- What is read of a text is read of it with `closing` behind, and with a larger bound. -/
theorem carries_reader (lt : ∀ l, n < m l) : Carries (alternatives n) (fun l => alternatives (m l)) ∧
    (∀ done, Carries (items n done) fun l => items (m l) done) ∧
      Carries (item n) fun l => item (m l) := by
  induction n generalizing m with
  -- Without a bound nothing is read at all.
  | zero => exact ⟨carries_failure, fun _ => carries_failure, carries_failure⟩
  | succ n ih =>
    obtain ⟨m, rfl, less⟩ := exists_pred lt
    obtain ⟨more, others, one⟩ := ih less
    exact ⟨carries_alternatives_succ more others, carries_items_succ less others one,
      carries_item_succ less more⟩

end Bounds

end Read
end Pattern
end StoryLoom
