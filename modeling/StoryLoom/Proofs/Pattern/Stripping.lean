import StoryLoom.Proofs.Pattern.DefaultNaming

/-!
# Stripping — what is left of a text that is made to fit

- `strip_eq_nil_or_accepts` : a stripped text is empty or legal
- `strip_of_accepts`        : a legal text is left as it is
- `LegalThroughout`         : texts whose beginnings are all legal
- `PrefixClosed`            : grammars whose legal texts are such texts
- `prefixClosed_iff`        : only there, keeping characters one by one changes no legal text
- `stripping_keeps_legal_beginnings` : what both ways of stripping leave, under any grammar
- `legalise_of_accepts`     : a legal text fits where its first character is legal by itself
- `legalise_eq_nil_or_accepts` : a text made to fit is empty or legal

Nothing is asked of the grammar but, in the end, that legal texts begin with a character that is legal by
itself.
-/

namespace StoryLoom
namespace Pattern

variable {accepts : List Char → Bool} {text : List Char}

/-- Keeping legal characters ends with what was kept before or with a legal text. -/
theorem keepLegal_eq_or_accepts (kept text : List Char) :
    keepLegal accepts kept text = kept ∨ accepts (keepLegal accepts kept text) = true := by
  induction text generalizing kept with
  | nil => exact .inl rfl
  | cons c rest ih =>
    by_cases legal : accepts (kept ++ [c]) = true
    · have keeps : keepLegal accepts kept (c :: rest) = keepLegal accepts (kept ++ [c]) rest := by
        simp [keepLegal, legal]
      -- Where nothing more is kept, the text kept last was legal.
      rcases ih (kept ++ [c]) with same | accepted
      · right
        rw [keeps, same]
        exact legal
      · right
        rw [keeps]
        exact accepted
    · have drops : keepLegal accepts kept (c :: rest) = keepLegal accepts kept rest := by
        simp [keepLegal, legal]
      rw [drops]
      exact ih kept

/-- A legal text is left as it is. -/
theorem strip_of_accepts (legal : accepts text = true) : strip accepts text = text := by
  simp [strip, legal]

/-- Of a text that is not legal, characters are kept one by one. -/
theorem strip_of_not_accepts (illegal : ¬ accepts text = true) :
    strip accepts text = keepLegal accepts [] text := by
  simp [strip, illegal]

/-- A stripped text is empty or legal. -/
theorem strip_eq_nil_or_accepts (accepts : List Char → Bool) (text : List Char) :
    strip accepts text = [] ∨ accepts (strip accepts text) = true := by
  by_cases legal : accepts text = true
  · right
    rw [strip_of_accepts legal]
    exact legal
  · rw [strip_of_not_accepts legal]
    exact keepLegal_eq_or_accepts [] text

/-- Nothing is dropped in front of a character that is legal by itself. -/
theorem stripLeading_of_accepts {c : Char} (starts : accepts [c] = true) :
    stripLeading accepts (c :: text) = c :: text := by
  simp [stripLeading, starts]

/-! ## What is kept of a text -/

/-- Of what is kept, only characters of the text are new, in their order. -/
theorem keepLegal_eq_append (accepts : List Char → Bool) (kept text : List Char) :
    ∃ more, keepLegal accepts kept text = kept ++ more ∧ more.Sublist text := by
  induction text generalizing kept with
  | nil => exact ⟨[], by simp [keepLegal], List.Sublist.refl []⟩
  | cons c rest ih =>
    by_cases legal : accepts (kept ++ [c]) = true
    · obtain ⟨more, same, among⟩ := ih (kept ++ [c])
      exact ⟨c :: more, by simp [keepLegal, legal, same], among.cons_cons c⟩
    · obtain ⟨more, same, among⟩ := ih kept
      exact ⟨more, by simp [keepLegal, legal, same], among.cons c⟩

/-- Stripping drops characters and changes nothing else. -/
theorem strip_sublist (accepts : List Char → Bool) (text : List Char) :
    (strip accepts text).Sublist text := by
  by_cases legal : accepts text = true
  · simp [strip_of_accepts legal]
  · obtain ⟨more, same, among⟩ := keepLegal_eq_append accepts [] text
    rw [strip_of_not_accepts legal, same]
    exact among

theorem strip_nil (accepts : List Char → Bool) : strip accepts [] = [] := by
  simp [strip, keepLegal]

/-- A text that was stripped is left as it is. -/
theorem strip_strip (accepts : List Char → Bool) (text : List Char) :
    strip accepts (strip accepts text) = strip accepts text := by
  rcases strip_eq_nil_or_accepts accepts text with empty | legal
  · rw [empty]
    exact strip_nil accepts
  · exact strip_of_accepts legal

/-! ## Legal beginnings -/

/-- Every beginning of a text is legal, the empty one apart. -/
def LegalThroughout (accepts : List Char → Bool) (text : List Char) : Prop :=
  ∀ front, front <+: text → front ≠ [] → accepts front = true

/-- The beginnings of legal texts are legal, the empty one apart. -/
def PrefixClosed (accepts : List Char → Bool) : Prop :=
  ∀ text, accepts text = true → LegalThroughout accepts text

theorem LegalThroughout.nil : LegalThroughout accepts [] := by
  intro front pre other
  exact absurd (List.prefix_nil.1 pre) other

/-- A legal character more keeps every beginning legal. -/
theorem LegalThroughout.concat {c : Char} (h : LegalThroughout accepts text)
    (legal : accepts (text ++ [c]) = true) : LegalThroughout accepts (text ++ [c]) := by
  intro front pre other
  rcases List.prefix_concat_iff.1 pre with rfl | earlier
  · exact legal
  · exact h front earlier other

/-- Nothing is dropped in front of a text that is legal throughout. -/
theorem LegalThroughout.stripLeading_eq (h : LegalThroughout accepts text) :
    stripLeading accepts text = text := by
  cases text with
  | nil => rfl
  | cons c rest => exact stripLeading_of_accepts (h [c] (List.prefix_append [c] rest) (by simp))

/-- Characters kept one by one extend what is legal throughout. -/
theorem legalThroughout_keepLegal {kept : List Char} (h : LegalThroughout accepts kept)
    (text : List Char) : LegalThroughout accepts (keepLegal accepts kept text) := by
  induction text generalizing kept with
  | nil => exact h
  | cons c rest ih =>
    by_cases legal : accepts (kept ++ [c]) = true
    · simpa [keepLegal, legal] using ih (h.concat legal)
    · simpa [keepLegal, legal] using ih h

/-- Of a text that is legal throughout every character is kept. -/
theorem keepLegal_of_legalThroughout {kept : List Char} (h : LegalThroughout accepts (kept ++ text)) :
    keepLegal accepts kept text = kept ++ text := by
  induction text generalizing kept with
  | nil => simp [keepLegal]
  | cons c rest ih =>
    have onward : kept ++ c :: rest = (kept ++ [c]) ++ rest := by simp
    rw [onward] at h ⊢
    have legal : accepts (kept ++ [c]) = true := h (kept ++ [c]) (List.prefix_append _ _) (by simp)
    simpa [keepLegal, legal] using ih h

/-- What is left of a text that is not legal is legal throughout. -/
theorem legalThroughout_strip (illegal : accepts text = false) :
    LegalThroughout accepts (strip accepts text) := by
  rw [strip_of_not_accepts (by simp [illegal])]
  exact legalThroughout_keepLegal .nil text

/-- Keeping characters one by one leaves all legal texts as they are only where the grammar is closed under
beginnings. -/
theorem prefixClosed_iff :
    PrefixClosed accepts ↔ ∀ text, strip accepts text = keepLegal accepts [] text := by
  constructor
  · intro closed text
    by_cases legal : accepts text = true
    · have throughout : LegalThroughout accepts ([] ++ text) := closed text legal
      rw [strip_of_accepts legal]
      exact (keepLegal_of_legalThroughout throughout).symm
    · exact strip_of_not_accepts legal
  · intro same text legal
    have kept : keepLegal accepts [] text = text := (same text).symm.trans (strip_of_accepts legal)
    have throughout : LegalThroughout accepts (keepLegal accepts [] text) :=
      legalThroughout_keepLegal .nil text
    rwa [kept] at throughout

/-- Where beginnings of legal texts are legal, those of the stripped text are. -/
theorem PrefixClosed.legalThroughout_strip (closed : PrefixClosed accepts) (text : List Char) :
    LegalThroughout accepts (strip accepts text) := by
  rw [prefixClosed_iff.1 closed]
  exact legalThroughout_keepLegal .nil text

/-! ## The front of a text -/

/-- What is dropped in front of a text is characters that are not legal by themselves. -/
theorem exists_dropped (accepts : List Char → Bool) (text : List Char) :
    ∃ dropped, text = dropped ++ stripLeading accepts text ∧ ∀ c ∈ dropped, accepts [c] = false := by
  refine ⟨text.takeWhile fun c => !accepts [c], List.takeWhile_append_dropWhile.symm, ?_⟩
  intro c hc
  simpa using List.all_eq_true.1 List.all_takeWhile c hc

/-- What is left begins with a character that is legal by itself. -/
theorem stripLeading_eq_nil_or_starts (accepts : List Char → Bool) (text : List Char) :
    stripLeading accepts text = [] ∨
      ∃ c rest, stripLeading accepts text = c :: rest ∧ accepts [c] = true := by
  induction text with
  | nil => exact .inl rfl
  | cons c rest ih =>
    by_cases starts : accepts [c] = true
    · exact .inr ⟨c, rest, stripLeading_of_accepts starts, starts⟩
    · have dropped : stripLeading accepts (c :: rest) = stripLeading accepts rest := by
        simp [stripLeading, starts]
      rw [dropped]
      exact ih

/-- What begins legally has no characters to drop in front. -/
theorem stripLeading_stripLeading (accepts : List Char → Bool) (text : List Char) :
    stripLeading accepts (stripLeading accepts text) = stripLeading accepts text := by
  rcases stripLeading_eq_nil_or_starts accepts text with empty | ⟨c, rest, left, starts⟩
  · rw [empty]
    rfl
  · rw [left]
    exact stripLeading_of_accepts starts

/-- What stripping leaves under any grammar. A text that is not legal keeps some of its characters so that all
beginnings are legal, and a legal one keeps all. The front of a text loses the characters that are not legal by
themselves. Where the grammar is closed under beginnings, keeping characters one by one makes no exception for
legal texts, and there is nothing to lose in front of a stripped text. -/
theorem stripping_keeps_legal_beginnings (accepts : List Char → Bool) (text : List Char) :
    (strip accepts text).Sublist text ∧
    (strip accepts text = [] ∨ accepts (strip accepts text) = true) ∧
    (accepts text = true → strip accepts text = text) ∧
    (accepts text = false → LegalThroughout accepts (strip accepts text)) ∧
    strip accepts (strip accepts text) = strip accepts text ∧
    stripLeading accepts text <:+ text ∧
    (stripLeading accepts text = [] ∨
      ∃ c rest, stripLeading accepts text = c :: rest ∧ accepts [c] = true) ∧
    (∃ dropped, text = dropped ++ stripLeading accepts text ∧ ∀ c ∈ dropped, accepts [c] = false) ∧
    stripLeading accepts (stripLeading accepts text) = stripLeading accepts text ∧
    (PrefixClosed accepts ↔ ∀ other, strip accepts other = keepLegal accepts [] other) ∧
    (PrefixClosed accepts → stripLeading accepts (strip accepts text) = strip accepts text ∧
      (stripLeading accepts (strip accepts text) = [] ∨
        accepts (stripLeading accepts (strip accepts text)) = true)) := by
  refine ⟨strip_sublist accepts text, strip_eq_nil_or_accepts accepts text, strip_of_accepts,
    legalThroughout_strip, strip_strip accepts text, List.dropWhile_suffix _,
    stripLeading_eq_nil_or_starts accepts text, exists_dropped accepts text,
    stripLeading_stripLeading accepts text, prefixClosed_iff, ?_⟩
  intro closed
  have same : stripLeading accepts (strip accepts text) = strip accepts text :=
    (closed.legalThroughout_strip text).stripLeading_eq
  rw [same]
  exact ⟨rfl, strip_eq_nil_or_accepts accepts text⟩

open Libraries

/-- Under the grammar of names a text loses the digits in front, and the blank. -/
theorem monkeys_stripped :
    ∃ p, LegalPattern.compile LegalPattern.defaultNaming = .ok p ∧ PrefixClosed p.accepts ∧
      strip p.accepts "42 Monkeys".toList = "Monkeys".toList ∧
      stripLeading p.accepts (strip p.accepts "42 Monkeys".toList) = "Monkeys".toList := by
  obtain ⟨p, compiled, grammar⟩ := namesIdentifiers
  have closed : PrefixClosed p.accepts := by
    intro text legal front pre other
    exact (grammar front).2 (((grammar text).1 legal).of_isPrefix pre other)
  have test : p.accepts = isIdentifier := by
    funext text
    exact Bool.eq_iff_iff.2 ((grammar text).trans isIdentifier_iff.symm)
  have stripped : strip p.accepts "42 Monkeys".toList = "Monkeys".toList := by
    rw [test]
    decide +kernel
  obtain ⟨-, -, -, -, -, -, -, -, -, -, fits⟩ :=
    stripping_keeps_legal_beginnings p.accepts "42 Monkeys".toList
  exact ⟨p, compiled, closed, stripped, (fits closed).1.trans stripped⟩

/-- Where legal texts end in a letter, a legal text may lose its front again. -/
example :
    let accepts : List Char → Bool := fun text => text.getLast?.any Char.isAlpha
    strip accepts ['1', 'a'] = ['1', 'a'] ∧ keepLegal accepts [] ['1', 'a'] = ['a'] ∧
      stripLeading accepts (strip accepts ['1', 'a']) = ['a'] := by
  decide

/-! ## Grammars with a set of first characters -/

section Starting

/-- Legal texts begin with a character that is legal by itself. -/
def Starting (accepts : List Char → Bool) : Prop :=
  ∀ text, accepts text = true → ∃ c rest, text = c :: rest ∧ accepts [c] = true

/-- The empty text is not legal. -/
theorem Starting.ne_nil (h : Starting accepts) (legal : accepts text = true) : text ≠ [] := by
  rcases h text legal with ⟨c, rest, rfl, -⟩
  exact List.cons_ne_nil c rest

/-- A legal text begins with a legal character. -/
theorem Starting.stripLeading_eq (h : Starting accepts) (legal : accepts text = true) :
    stripLeading accepts text = text := by
  rcases h text legal with ⟨c, rest, rfl, starts⟩
  exact stripLeading_of_accepts starts

/-- A legal text fits already. -/
theorem legalise_of_accepts (h : Starting accepts) (legal : accepts text = true) :
    legalise accepts text = text := by
  calc
    legalise accepts text = stripLeading accepts (strip accepts text) := rfl
    _ = stripLeading accepts text := by rw [strip_of_accepts legal]
    _ = text := h.stripLeading_eq legal

/-- A text made to fit is empty or legal. -/
theorem legalise_eq_nil_or_accepts (h : Starting accepts) (text : List Char) :
    legalise accepts text = [] ∨ accepts (legalise accepts text) = true := by
  rcases strip_eq_nil_or_accepts accepts text with empty | legal
  · left
    simp [legalise, empty, stripLeading]
  · right
    have kept : legalise accepts text = strip accepts text := h.stripLeading_eq legal
    rw [kept]
    exact legal

end Starting

end Pattern
end StoryLoom
