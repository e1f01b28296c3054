import StoryLoom.Pattern.Legal

/-!
# Identifier — the texts of the grammar of names

- `IsIdentifier`     : a letter, then letters, digits and `_`
- `NamesIdentifiers` : what is asked of a library where a dictionary has no grammar of its own
-/

namespace StoryLoom
namespace Pattern

/-- The characters of identifiers: letters, digits and `_`, all below 128. -/
def IsWordChar (c : Char) : Prop :=
  c.isAlphanum = true ∨ c = '_'

/-- A letter, then letters, digits and `_`, all below 128. -/
def IsIdentifier (text : List Char) : Prop :=
  ∃ c rest, text = c :: rest ∧ c.isAlpha = true ∧ ∀ d ∈ rest, IsWordChar d

theorem isIdentifier_cons_iff {c : Char} {rest : List Char} :
    IsIdentifier (c :: rest) ↔ c.isAlpha = true ∧ ∀ d ∈ rest, IsWordChar d := by
  constructor
  · rintro ⟨_, _, same, letter, later⟩
    cases same
    exact ⟨letter, later⟩
  · rintro ⟨letter, later⟩
    exact ⟨c, rest, rfl, letter, later⟩

def isIdentifier : List Char → Bool
  | [] => false
  | c :: rest => c.isAlpha && rest.all fun d => d.isAlphanum || d == '_'

/-- The test decides the notion. -/
theorem isIdentifier_iff {text : List Char} : isIdentifier text = true ↔ IsIdentifier text := by
  cases text with
  | nil => exact iff_of_false nofun nofun
  | cons c rest => simp [isIdentifier, isIdentifier_cons_iff, IsWordChar]

/-- The beginnings of identifiers are identifiers. -/
theorem IsIdentifier.of_isPrefix {front text : List Char} (h : IsIdentifier text) (pre : front <+: text)
    (other : front ≠ []) : IsIdentifier front := by
  obtain ⟨c, rest, rfl, letter, later⟩ := h
  cases front with
  | nil => exact absurd rfl other
  | cons d front =>
    obtain ⟨rfl, beginning⟩ := List.cons_prefix_cons.1 pre
    exact isIdentifier_cons_iff.2 ⟨letter, fun e he => later e (beginning.subset he)⟩

theorem IsWordChar.of_isAlpha {c : Char} (h : c.isAlpha = true) : IsWordChar c := by
  left
  simp [Char.isAlphanum, h]

end Pattern

/-- The pattern that is used where a dictionary has none can be compiled, and its legal texts are the
identifiers. -/
def LegalPattern.NamesIdentifiers [PatternLibrary] : Prop :=
  ∃ p, compile defaultNaming = .ok p ∧ ∀ text, p.accepts text = true ↔ Pattern.IsIdentifier text

end StoryLoom
