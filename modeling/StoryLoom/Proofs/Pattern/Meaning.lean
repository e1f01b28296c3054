import StoryLoom.Pattern.Legal

/-!
# Meaning — what is documented of a library of regular expressions

- `CommentOpen`    : a comment may run on past the end of a text
- `grouped`, `tied` : a pattern in a group, and the group between the two ends of a text
- `Meaning`        : which texts are patterns, and which parts of a text they match
- `Meaning.Lawful` : how a library goes by a meaning
- `accepts_iff`    : what a source accepts that is a pattern by itself

Only what the wrapping of patterns needs is asked for: the limits are left open, and so is what patterns
without a group around them match.
-/

namespace StoryLoom
namespace Pattern

/-- A comment that begins somewhere in the text may run on past its end. -/
def CommentOpen (cs : List Char) : Prop :=
  ∃ front line, cs = front ++ '#' :: line ∧ '\n' ∉ line

/-- A comment open in the end of a text is open in the text. -/
theorem CommentOpen.of_suffix {cs ds : List Char} (h : CommentOpen ds) (suffix : ds <:+ cs) :
    CommentOpen cs := by
  obtain ⟨front, line, rfl, inLine⟩ := h
  obtain ⟨more, rfl⟩ := suffix
  exact ⟨more ++ front, line, List.append_assoc _ _ _ |>.symm, inLine⟩

/-- A pattern in a group that only brackets. -/
def grouped (pattern : List Char) : List Char :=
  "(?:".toList ++ pattern ++ [')']

/-- A pattern in a group, between the start and the end of a text. -/
def tied (pattern : List Char) : List Char :=
  '^' :: grouped pattern ++ ['$']

/-- The pattern compiled is the source in a group between the marks of start and end. -/
theorem anchored_eq_tied (source : String) : LegalPattern.anchored source = tied source.toList := by
  simp [LegalPattern.anchored, tied, grouped]

/-- What is written of patterns: which texts are patterns, which of them stay within the limits on their
size and on how deep their parts are nested, and which parts of a text they match. -/
structure Meaning where
  WellFormed : List Char → Prop
  Fits : List Char → Prop
  /-- The pattern matches the part of the text between two positions. -/
  Matches (pattern text : List Char) (i j : Nat) : Prop

/-- A library goes by a meaning of patterns: in what it compiles and finds, in the two conditions `^` and
`$`, in groups, and in what is written one after the other. -/
structure Meaning.Lawful [PatternLibrary] (M : Meaning) : Prop where
  compiles_iff {pattern : List Char} :
    (∃ compiled, PatternLibrary.compile pattern = .ok compiled) ↔ M.WellFormed pattern ∧ M.Fits pattern
  /-- A match is found wherever it stands. -/
  occursIn_iff {pattern text : List Char} {compiled : PatternLibrary.Compiled} :
    PatternLibrary.compile pattern = .ok compiled →
      (PatternLibrary.occursIn compiled text = true ↔ ∃ i j, M.Matches pattern text i j)
  start_iff {text : List Char} {i j : Nat} : M.Matches ['^'] text i j ↔ i = 0 ∧ j = 0
  stop_iff {text : List Char} {i j : Nat} :
    M.Matches ['$'] text i j ↔ i = text.length ∧ j = text.length
  /-- Only a comment can hide the end of a group. -/
  grouped_wellFormed {pattern : List Char} : M.WellFormed pattern → ¬ CommentOpen pattern →
    M.WellFormed (grouped pattern)
  grouped_iff {pattern text : List Char} {i j : Nat} : M.WellFormed pattern →
    M.WellFormed (grouped pattern) → (M.Matches (grouped pattern) text i j ↔ M.Matches pattern text i j)
  tied_wellFormed_iff {pattern : List Char} : M.WellFormed pattern →
    (M.WellFormed (tied pattern) ↔ M.WellFormed (grouped pattern))
  /-- What is written one after the other matches one after the other. -/
  tied_iff {pattern text : List Char} {i j : Nat} : M.WellFormed pattern →
    M.WellFormed (tied pattern) → (M.Matches (tied pattern) text i j ↔
      ∃ k l, M.Matches ['^'] text i k ∧ M.Matches (grouped pattern) text k l ∧
        M.Matches ['$'] text l j)

namespace Meaning.Lawful

variable [PatternLibrary] {M : Meaning}

/-- Tied to both ends of a text, a pattern matches the text as a whole or not at all. -/
theorem exists_tied_iff (lawful : M.Lawful) {pattern text : List Char} (valid : M.WellFormed pattern)
    (closes : M.WellFormed (tied pattern)) :
    (∃ i j, M.Matches (tied pattern) text i j) ↔ M.Matches pattern text 0 text.length := by
  have grouped_iff : ∀ i j, M.Matches (grouped pattern) text i j ↔ M.Matches pattern text i j :=
    fun _ _ => lawful.grouped_iff valid ((lawful.tied_wellFormed_iff valid).1 closes)
  simp only [lawful.tied_iff valid closes, lawful.start_iff, lawful.stop_iff, grouped_iff]
  constructor
  · rintro ⟨_, _, _, _, ⟨rfl, rfl⟩, whole, rfl, rfl⟩
    exact whole
  · intro whole
    exact ⟨0, text.length, 0, text.length, ⟨rfl, rfl⟩, whole, rfl, rfl⟩

end Meaning.Lawful
end Pattern

namespace LegalPattern

open Pattern

variable [PatternLibrary] {source : String} {p : LegalPattern}

/-- Compiling keeps the source and asks the library for the anchored pattern. -/
theorem compile_eq_ok_iff : compile source = .ok p ↔
    ∃ compiled, PatternLibrary.compile (anchored source) = .ok compiled ∧ p = ⟨source, compiled⟩ := by
  unfold compile
  split
  · rename_i compiled succeeds
    constructor
    · intro same
      exact ⟨compiled, succeeds, (Except.ok.inj same).symm⟩
    · rintro ⟨compiled', succeeds', rfl⟩
      rw [Except.ok.inj (succeeds.symm.trans succeeds')]
  · rename_i e refused
    constructor
    · intro none
      cases none
    · rintro ⟨compiled, succeeds, -⟩
      cases refused.symm.trans succeeds

variable {M : Meaning}

/-- A source is accepted if the anchored pattern is one and fits the limits. -/
theorem exists_compile_iff (lawful : M.Lawful) (source : String) : (∃ p, compile source = .ok p) ↔
    M.WellFormed (anchored source) ∧ M.Fits (anchored source) := by
  simp only [← lawful.compiles_iff, compile_eq_ok_iff]
  constructor
  · rintro ⟨p, compiled, succeeds, -⟩
    exact ⟨compiled, succeeds⟩
  · rintro ⟨compiled, succeeds⟩
    exact ⟨_, compiled, succeeds, rfl⟩

/-- The legal texts of a source that is a pattern by itself are those that match it as a whole. -/
theorem accepts_iff (lawful : M.Lawful) (valid : M.WellFormed source.toList)
    (compiles : compile source = .ok p) (text : List Char) :
    p.accepts text = true ↔ M.Matches source.toList text 0 text.length := by
  have closes := ((exists_compile_iff lawful source).1 ⟨p, compiles⟩).1
  obtain ⟨compiled, done, rfl⟩ := compile_eq_ok_iff.1 compiles
  rw [anchored_eq_tied] at closes done
  exact (lawful.occursIn_iff done).trans (lawful.exists_tied_iff valid closes)

end LegalPattern
end StoryLoom
