import StoryLoom.Pattern.Reader.Input
import StoryLoom.Proofs.Pattern.Meaning

/-!
# Closing — reading a text with the end of a group behind it

- `closing`     : the end of a group, and what follows the group in the same line
- `Carries`     : what a step reads of a text, another reads of it too, also with `closing` behind
- `Carried`     : the same of the results from one input on

What stands behind a pattern is left to be read, unless a comment in the last line of the pattern goes on
and swallows it. From then on reading goes on as if nothing stood there. Which of the two happens depends
on the pattern alone, so it is said of all that may follow the group at once. The second step of `Carries`
is mostly the first one; where steps are bounded, it is the same with a larger bound, which may depend on
how long a text follows.
-/

namespace StoryLoom
namespace Pattern

/-- Text that ends no line. -/
def Line := { cs : List Char // '\n' ∉ cs }

/-- What is written behind a pattern: the end of its group, and what follows the group. -/
def closing (l : Line) : List Char := ')' :: l.1

/-- The input with `closing` behind it. -/
def Input.closed (s : Input) (l : Line) : Input :=
  { s with rest := s.rest ++ closing l }

theorem Input.length_le_closed (s : Input) (l : Line) : s.rest.length ≤ (s.closed l).rest.length := by
  rw [closed, List.length_append]
  exact Nat.le_add_right _ _

namespace Read

variable {α β : Type} {s : Input} {c : Char}

/-! ## Steps that carry over -/

/-- Whatever is the result of a step, it is the result of a second one, and with `closing` behind the
input the result of a third, unless a comment swallows what stands behind. -/
def Carried (s : Input) (r : Option (α × Input)) (r₁ r₂ : Line → Option (α × Input)) : Prop :=
  ∀ a s', r = some (a, s') → s'.rest <:+ s.rest ∧ (∀ l, r₁ l = some (a, s')) ∧
    ((∀ l, r₂ l = some (a, s'.closed l)) ∨ CommentOpen s.rest ∧ ∀ l, r₂ l = some (a, s'))

/-- What a step reads of a text, another reads of it too, also with `closing` behind the text. -/
def Carries (x : Read α) (y : Line → Read α) : Prop :=
  ∀ s, Carried s (x s) (fun l => y l s) fun l => y l (s.closed l)

/-- What a step reads of a text, it reads too with `closing` behind the text. -/
abbrev CarriesOver (x : Read α) : Prop :=
  Carries x fun _ => x

theorem Carried.of_none {r₁ r₂ : Line → Option (α × Input)} : Carried s none r₁ r₂ := by
  intro a s' h
  cases h

theorem Carried.of_some (s' : Input) {a : α} (suffix : s'.rest <:+ s.rest) :
    Carried s (some (a, s')) (fun _ => some (a, s')) fun l => some (a, s'.closed l) := by
  intro b t h
  cases h
  exact ⟨suffix, fun _ => rfl, .inl fun _ => rfl⟩

/-- The second step may be the first. -/
theorem Carried.left {r : Option (α × Input)} {r₁ r₂ : Line → Option (α × Input)}
    (h : Carried s r r₁ r₂) : Carried s r (fun _ => r) r₂ :=
  fun a s' done => ⟨(h a s' done).1, fun _ => done, (h a s' done).2.2⟩

section Bind

variable {x : Read α} {y z : Line → Read α} {f : α → Read β} {g : Line → α → Read β}

/-- Steps one after the other, where what is known of the result of the first may be used. -/
theorem Carried.bind_of (h : Carried s (x s) (fun l => y l s) fun l => z l (s.closed l))
    (next : ∀ a s', x s = some (a, s') →
      Carried s' (f a s') (fun l => g l a s') fun l => g l a (s'.closed l)) :
    Carried s ((x >>= f) s) (fun l => (y l >>= g l) s) fun l => (z l >>= g l) (s.closed l) := by
  intro b t done
  obtain ⟨⟨a, s'⟩, first, second⟩ := Option.bind_eq_some_iff.1 done
  obtain ⟨suffix, same, closed⟩ := h a s' first
  obtain ⟨suffix', same', closed'⟩ := next a s' first b t second
  refine ⟨suffix'.trans suffix, fun l => Option.bind_eq_some_iff.2 ⟨_, same l, same' l⟩, ?_⟩
  -- Once a comment has swallowed `closing`, the later steps read what they read without it.
  rcases closed with carried | ⟨isOpen, swallowed⟩
  · rcases closed' with carried' | ⟨isOpen, swallowed⟩
    · exact .inl fun l => Option.bind_eq_some_iff.2 ⟨_, carried l, carried' l⟩
    · exact .inr ⟨isOpen.of_suffix suffix,
        fun l => Option.bind_eq_some_iff.2 ⟨_, carried l, swallowed l⟩⟩
  · exact .inr ⟨isOpen, fun l => Option.bind_eq_some_iff.2 ⟨_, swallowed l, same' l⟩⟩

/-- Two steps that do not see the end of the input do not see it together. -/
theorem Carried.bind (h : Carried s (x s) (fun l => y l s) fun l => z l (s.closed l))
    (next : ∀ a, Carries (f a) fun l => g l a) :
    Carried s ((x >>= f) s) (fun l => (y l >>= g l) s) fun l => (z l >>= g l) (s.closed l) :=
  h.bind_of fun a s' _ => next a s'

theorem Carries.bind (h : Carries x y) (next : ∀ a, Carries (f a) fun l => g l a) :
    Carries (x >>= f) fun l => y l >>= g l :=
  fun s => (h s).bind next

end Bind

theorem carries_pure (a : α) : CarriesOver (pure a) :=
  fun _ => .of_some _ List.suffix_rfl

theorem carries_failure {y : Line → Read α} : Carries failure y :=
  fun _ => .of_none

/-- Nor does a choice between them. -/
theorem carries_ite {p : Prop} [Decidable p] {x x' : Read α} {y y' : Line → Read α}
    (yes : Carries x y) (no : Carries x' y') :
    Carries (if p then x else x') fun l => if p then y l else y' l := by
  split
  · exact yes
  · exact no

/-! ## Characters -/

theorem carries_flags : CarriesOver flags :=
  fun _ => .of_some _ List.suffix_rfl

/-- A change of the input that drops characters at most. -/
theorem Carried.modify {f : Input → Input} (suffix : (f s).rest <:+ s.rest)
    (closed : (∀ l, f (s.closed l) = (f s).closed l) ∨
      CommentOpen s.rest ∧ ∀ l, f (s.closed l) = f s) :
    Carried s ((modify f : Read Unit) s) (fun _ => (modify f : Read Unit) s)
      fun l => (modify f : Read Unit) (s.closed l) := by
  intro a s' done
  cases done
  exact ⟨suffix, fun _ => rfl, closed.imp (fun same l => congrArg (fun t => some ((), t)) (same l))
    (And.imp_right fun same l => congrArg (fun t => some ((), t)) (same l))⟩

theorem carries_setFlags (flags : Flags) : CarriesOver (setFlags flags) :=
  fun _ => .modify List.suffix_rfl (.inl fun _ => rfl)

theorem dropSpace_true_of_line (l : Line) : dropSpace true (closing l) = [] := by
  have skipped : ∀ cs : List Char, '\n' ∉ cs → dropSpace true cs = [] := by
    intro cs
    induction cs with
    | nil => exact fun _ => rfl
    | cons c cs ih =>
      intro noEnd
      obtain ⟨other, noEnd⟩ := not_or.1 (mt List.mem_cons.2 noEnd)
      rw [dropSpace, if_pos rfl, bne_iff_ne.2 (Ne.symm other)]
      exact ih noEnd
  exact skipped (')' :: l.1) (by simpa using l.2)

/-- Blanks and comments are skipped alike with `closing` behind, unless a comment swallows it. -/
theorem dropSpace_closing (inComment : Bool) (cs : List Char) :
    (∀ l, dropSpace inComment (cs ++ closing l) = dropSpace inComment cs ++ closing l) ∨
      (CommentOpen cs ∨ inComment = true ∧ '\n' ∉ cs) ∧
        ∀ l, dropSpace inComment (cs ++ closing l) = dropSpace inComment cs := by
  induction cs generalizing inComment with
  | nil =>
    cases inComment with
    | false => exact .inl fun _ => rfl
    | true => exact .inr ⟨.inr ⟨rfl, List.not_mem_nil⟩, dropSpace_true_of_line⟩
  | cons c rest ih =>
    have behind : CommentOpen rest → CommentOpen (c :: rest) :=
      fun isOpen => isOpen.of_suffix (List.suffix_cons c rest)
    simp only [List.cons_append, dropSpace]
    split
    -- Inside a comment, which goes on up to the end of its line.
    · refine (ih _).imp_right fun ⟨swallows, same⟩ => ⟨?_, same⟩
      rcases swallows with isOpen | ⟨inLine, noEnd⟩
      · exact .inl (behind isOpen)
      · refine .inr ⟨‹_›, ?_⟩
        simp only [bne_iff_ne] at inLine
        simp [noEnd, Ne.symm inLine]
    · split
      · rename_i hash
        subst hash
        refine (ih _).imp_right fun ⟨swallows, same⟩ => ⟨.inl ?_, same⟩
        rcases swallows with isOpen | ⟨-, noEnd⟩
        · exact behind isOpen
        · exact ⟨[], rest, rfl, noEnd⟩
      · split
        · refine (ih _).imp_right fun ⟨swallows, same⟩ => ⟨.inl ?_, same⟩
          rcases swallows with isOpen | ⟨none, -⟩
          · exact behind isOpen
          · cases none
        · exact .inl fun _ => rfl

/-- Skipping spaces leaves an end of the input. -/
theorem dropSpace_suffix (inComment : Bool) (cs : List Char) : dropSpace inComment cs <:+ cs := by
  induction cs generalizing inComment with
  | nil => exact List.suffix_rfl
  | cons c rest ih =>
    rw [dropSpace]
    split
    · exact (ih _).trans (List.suffix_cons c rest)
    · split
      · exact (ih _).trans (List.suffix_cons c rest)
      · split
        · exact (ih _).trans (List.suffix_cons c rest)
        · exact List.suffix_rfl

/-- Spaces end before the parenthesis, and a comment before the line that closes it. -/
theorem carries_skipSpace : CarriesOver skipSpace := by
  intro s
  cases spaced : s.flags.spaced with
  | false =>
    refine .modify ?_ (.inl fun l => ?_)
    · simp [spaced]
    · simp [Input.closed, spaced]
  | true =>
    refine .modify ?_ ?_
    · simpa [spaced] using dropSpace_suffix false s.rest
    · simpa [Input.closed, spaced] using dropSpace_closing false s.rest

theorem dropSpace_twice (inComment : Bool) (cs : List Char) :
    dropSpace false (dropSpace inComment cs) = dropSpace inComment cs := by
  induction cs generalizing inComment with
  | nil => rfl
  | cons c rest ih =>
    rw [dropSpace]
    split
    · exact ih _
    · split
      · exact ih _
      · split
        · exact ih _
        · rename_i hash blank
          rw [dropSpace, if_neg Bool.false_ne_true, if_neg hash, if_neg blank]

/-- Skipping again skips nothing. -/
theorem skipSpace_twice : (skipSpace >>= fun _ => skipSpace) = skipSpace := by
  funext s
  obtain ⟨rest, ⟨caseless, multiLine, dotAll, spaced, crlf, lazyFirst, asciiOnly⟩, names, groups⟩ := s
  cases spaced with
  | false => rfl
  | true =>
    exact congrArg (fun cs => some ((), (⟨cs, _, names, groups⟩ : Input))) (dropSpace_twice false rest)

theorem carries_peek : CarriesOver peek := by
  intro s
  obtain ⟨rest, flags, names, groups⟩ := s
  cases rest with
  | nil => exact .of_none
  | cons c rest => exact .of_some _ List.suffix_rfl

/-- A step after the next character was looked at, which is still the next one. -/
theorem Carried.peek_bind {f : Char → Read α} {g : Line → Char → Read α}
    (next : ∀ c, s.rest.head? = some c →
      Carried s (f c s) (fun l => g l c s) fun l => g l c (s.closed l)) :
    Carried s ((peek >>= f) s) (fun l => (peek >>= g l) s) fun l => (peek >>= g l) (s.closed l) := by
  obtain ⟨rest, flags, names, groups⟩ := s
  cases rest with
  | nil => exact .of_none
  | cons c rest => exact next c rfl

/-- A step after a look at the next character if there is one. Where there is none, the parenthesis of
`closing` is seen. -/
theorem Carried.peek?_bind {f : Option Char → Read α} {g : Line → Option Char → Read α}
    (next : ∀ c, s.rest.head? = some c →
      Carried s (f (some c) s) (fun l => g l (some c) s) fun l => g l (some c) (s.closed l))
    (last : s.rest = [] →
      Carried s (f none s) (fun l => g l none s) fun l => g l (some ')') (s.closed l)) :
    Carried s ((peek? >>= f) s) (fun l => (peek? >>= g l) s)
      fun l => (peek? >>= g l) (s.closed l) := by
  obtain ⟨rest, flags, names, groups⟩ := s
  cases rest with
  | nil => exact last rfl
  | cons c rest => exact next c rfl

/-- A step that depends on all of the input. -/
theorem Carried.get_bind {f : Input → Read α} {g : Line → Input → Read α}
    (h : Carried s (f s s) (fun l => g l s s) fun l => g l (s.closed l) (s.closed l)) :
    Carried s ((get >>= f) s) (fun l => (get >>= g l) s) fun l => (get >>= g l) (s.closed l) :=
  h

/-- As many characters are dropped as there are. -/
theorem carried_bump {n : Nat} (enough : n ≤ s.rest.length) :
    Carried s (bump n s) (fun _ => bump n s) fun l => bump n (s.closed l) := by
  refine .modify (List.drop_suffix n s.rest) (.inl fun l => ?_)
  simp only [Input.closed, List.drop_append_of_le_length enough]

/-- A character at hand is passed whatever stands at the end. -/
theorem carried_bump_one (here : s.rest.head? = some c) :
    Carried s (bump 1 s) (fun _ => bump 1 s) fun l => bump 1 (s.closed l) := by
  apply carried_bump
  cases h : s.rest with
  | nil =>
    rw [h] at here
    cases here
  | cons d rest => simp

theorem carried_bumpSpace (here : s.rest.head? = some c) :
    Carried s (bumpSpace s) (fun _ => bumpSpace s) fun l => bumpSpace (s.closed l) :=
  (carried_bump_one here).bind fun _ => carries_skipSpace

/-- A character that is dropped with the space after it leaves fewer behind. -/
theorem suffix_of_bumpSpace {rest : List Char} {s' : Input} (here : s.rest = c :: rest)
    (done : bumpSpace s = some ((), s')) : s'.rest <:+ rest := by
  have suffix := (carries_skipSpace { s with rest := s.rest.drop 1 } () s' done).1
  rwa [here] at suffix

/-- Dropped inside, a character leaves fewer behind, and some. -/
theorem of_bumpInside {rest : List Char} {s' : Input} (here : s.rest = c :: rest)
    (done : bumpInside s = some ((), s')) : s'.rest <:+ rest ∧ s'.rest ≠ [] := by
  have steps : (bumpSpace s).bind (fun p => (peek >>= fun _ => pure ()) p.2) = some ((), s') := done
  obtain ⟨⟨_, t⟩, first, second⟩ := Option.bind_eq_some_iff.1 steps
  obtain ⟨cs, flags, names, groups⟩ := t
  cases cs with
  | nil => cases second
  | cons d cs =>
    cases second
    exact ⟨suffix_of_bumpSpace here first, List.cons_ne_nil d cs⟩

theorem carries_bumpInside : CarriesOver bumpInside := by
  intro s
  cases h : s.rest with
  | nil =>
    -- Behind the end nothing comes next.
    have last : bumpInside s = none := by
      obtain ⟨rest, ⟨_, _, _, spaced, _, _, _⟩, names, groups⟩ := s
      cases h
      cases spaced <;> rfl
    rw [last]
    exact .of_none
  | cons c rest =>
    have here : s.rest.head? = some c := by rw [h]; rfl
    exact (carried_bumpSpace here).bind fun _ => carries_peek.bind fun _ => carries_pure ()

/-- A word without a parenthesis does not reach into the end. -/
theorem isPrefixOf_closing {text : List Char} (plain : ')' ∉ text) (cs : List Char) (l : Line) :
    text.isPrefixOf (cs ++ closing l) = text.isPrefixOf cs := by
  induction text generalizing cs with
  | nil => simp
  | cons t text ih =>
    obtain ⟨other, plain⟩ := not_or.1 (mt List.mem_cons.2 plain)
    cases cs with
    | nil => simp [List.isPrefixOf, closing, Ne.symm other]
    | cons c cs => simp [List.isPrefixOf, ih plain]

/-- A text without a parenthesis is no part of `closing`. -/
theorem carries_accept {text : String} (plain : ')' ∉ text.toList) :
    CarriesOver (accept text) := by
  intro s
  have same : ∀ l, text.toList.isPrefixOf (s.closed l).rest = text.toList.isPrefixOf s.rest :=
    isPrefixOf_closing plain s.rest
  change Carried s ((if text.toList.isPrefixOf s.rest then _ else _ : Read Bool) s)
    (fun _ => (if text.toList.isPrefixOf s.rest then _ else _ : Read Bool) s)
    fun l => (if text.toList.isPrefixOf (s.closed l).rest then _ else _ : Read Bool) (s.closed l)
  simp only [same]
  split
  · rename_i comes
    have enough : text.length ≤ s.rest.length := (List.isPrefixOf_iff_prefix.1 comes).length_le
    exact (carried_bump enough).bind fun _ => carries_pure true
  · exact carries_pure false s

theorem carries_expect (c : Char) : CarriesOver (expect c) := by
  refine fun s => .peek_bind fun d here => ?_
  split
  · exact carried_bump_one here
  · exact .of_none

/-! ## Numbers -/

theorem carries_charOf (n : Nat) : CarriesOver (charOf n) :=
  carries_ite (carries_pure _) carries_failure

theorem carries_hexDigits (n value : Nat) : CarriesOver (hexDigits n value) := by
  induction n generalizing value with
  | zero => exact carries_pure value
  | succ n ih =>
    refine fun s => .peek_bind fun c here => ?_
    cases hexValue? c with
    | none => exact .of_none
    | some d =>
      simp only []
      split
      · exact (carried_bumpSpace here).bind fun _ => ih _
      · exact (carries_bumpInside s).bind fun _ => ih _

/-- A bound that is one more for each text that follows. -/
theorem exists_pred {n : Nat} {m : Line → Nat} (le : ∀ l, n + 1 ≤ m l) :
    ∃ k : Line → Nat, (m = fun l => k l + 1) ∧ ∀ l, n ≤ k l := by
  refine ⟨fun l => m l - 1, funext fun l => ?_, fun l => Nat.le_sub_one_of_lt (le l)⟩
  exact (Nat.sub_add_cancel (Nat.le_of_add_left_le (le l))).symm

/-- More room does not change a number that was read. -/
theorem carries_bracedHex {n : Nat} {m : Line → Nat} (le : ∀ l, n ≤ m l) (value : Nat) (any : Bool) :
    Carries (bracedHex n value any) fun l => bracedHex (m l) value any := by
  induction n generalizing m value any with
  | zero => exact carries_failure
  | succ n ih =>
    obtain ⟨m, rfl, fewer⟩ := exists_pred le
    refine fun s => .peek_bind fun c here => ?_
    split
    · exact (carried_bumpSpace here).bind fun _ => carries_ite (carries_pure value) carries_failure
    · cases hexValue? c with
      | none => exact .of_none
      | some d => exact (carried_bumpSpace here).bind fun _ => ih fewer _ _

/-- Dropping characters stops at the parenthesis. -/
theorem dropWhile_closing (holds : Char → Bool) (stops : holds ')' = false) (cs : List Char) (l : Line) :
    (cs ++ closing l).dropWhile holds = cs.dropWhile holds ++ closing l := by
  have stays : (closing l).dropWhile holds = closing l := by simp [closing, stops]
  rw [List.dropWhile_append, stays]
  split
  · rename_i none
    rw [List.isEmpty_iff.1 none]
    rfl
  · rfl

theorem carries_skipBlanks : CarriesOver skipBlanks := by
  intro s
  refine .modify (List.dropWhile_suffix Text.isBlank) (.inl fun l => ?_)
  simp only [Input.closed, dropWhile_closing Text.isBlank (by decide)]

/-- What is left when characters that come next are read one by one is shorter each time, so that as many
rounds as there are characters are enough. -/
theorem carried_rounds {σ : Type} (loop : Nat → σ → Read β) {out : σ → β} {goes : Char → Bool}
    {next : σ → Char → σ} (zero : ∀ a, loop 0 a = pure (out a))
    (succ : ∀ n a, loop (n + 1) a = peek? >>= fun
      | some c => if goes c then bumpSpace >>= fun _ => loop n (next a c) else pure (out a)
      | none => pure (out a))
    (stops : goes ')' = false) {n : Nat} {m : Line → Nat} (a : σ) (few : s.rest.length ≤ n)
    (le : ∀ l, n ≤ m l) :
    Carried s (loop n a s) (fun l => loop (m l) a s) fun l => loop (m l) a (s.closed l) := by
  -- At the end of the text the parenthesis of `closing` stops the rounds, whatever the bound.
  have last : ∀ a (s : Input), s.rest = [] → ∀ k,
      loop k a s = some (out a, s) ∧ ∀ l, loop k a (s.closed l) = some (out a, s.closed l) := by
    rintro a ⟨rest, flags, names, groups⟩ rfl k
    cases k with
    | zero =>
      rw [zero]
      exact ⟨rfl, fun _ => rfl⟩
    | succ k =>
      rw [succ]
      refine ⟨rfl, fun l => ?_⟩
      change (if goes ')' then _ else _ : Read β) _ = _
      rw [stops]
      rfl
  induction n generalizing m a s with
  | zero =>
    have ends := last a s (List.length_eq_zero_iff.1 (Nat.le_zero.1 few))
    simp only [(ends _).1, (ends _).2]
    exact .of_some _ List.suffix_rfl
  | succ n ih =>
    obtain ⟨m, rfl, fewer⟩ := exists_pred le
    simp only [succ]
    refine .peek?_bind (fun c here => ?_) fun none => ?_
    · simp only []
      split
      · refine (carried_bumpSpace here).bind_of fun _ s' done => ih _ ?_ fewer
        obtain ⟨rest, split⟩ := List.head?_eq_some_iff.1 here
        rw [split] at few
        exact Nat.le_trans (suffix_of_bumpSpace split done).length_le (Nat.le_of_succ_le_succ few)
      · exact carries_pure _ s
    · simp only [stops]
      exact carries_pure _ s

/-- The digits of a count end before the parenthesis. -/
theorem carried_decimalDigits {n : Nat} {m : Line → Nat} (value : Nat) (few : s.rest.length ≤ n)
    (le : ∀ l, n ≤ m l) : Carried s (decimalDigits n value s) (fun l => decimalDigits (m l) value s)
      fun l => decimalDigits (m l) value (s.closed l) :=
  carried_rounds decimalDigits (fun _ => rfl) (fun _ _ => rfl) (by decide) value few le

theorem carries_decimal? : CarriesOver decimal? := by
  refine carries_skipBlanks.bind fun _ s => .peek?_bind (fun c here => ?_) fun _ => ?_
  · simp only []
    split
    · have digits := carried_decimalDigits 0 (Nat.le_refl s.rest.length) s.length_le_closed
      refine .get_bind (digits.left.bind fun value => ?_)
      exact carries_skipBlanks.bind fun _ => carries_skipSpace.bind fun _ =>
        carries_ite (carries_pure _) carries_failure
    · exact carries_pure none s
  · exact carries_pure none s

end Read
end Pattern
end StoryLoom
