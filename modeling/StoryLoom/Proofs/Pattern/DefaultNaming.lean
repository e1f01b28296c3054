import StoryLoom.Proofs.Pattern.Anchored
import StoryLoom.Proofs.Pattern.Identifier

/-!
# DefaultNaming — the expression of the grammar of names

- `times_chars_iff` : what a repeated set of characters matches
- `spans_identifierExpr_iff` : the expression of the grammar matches the identifiers
- `namesIdentifiers` : the library that reads patterns into expressions knows the grammar
-/

namespace StoryLoom
namespace Pattern

/-! ## Repeated sets of characters -/

/-- Members of a set one after the other. -/
theorem times_chars_iff {text : List Char} {k : CharSet} {n i j : Nat} :
    Times (Expr.Spans text (.chars k)) n i j ↔
      j = i + n ∧ ∀ m < n, ∃ c, text[i + m]? = some c ∧ k.mem c = true := by
  induction n generalizing i with
  | zero => simp [Times]
  | succ n ih =>
    -- The first character is at the start, and the others are counted from the one behind it.
    have shift : ∀ m, i + 1 + m = i + (m + 1) := by omega
    constructor
    · rintro ⟨_, ⟨first, rfl⟩, moves⟩
      rcases ih.1 moves with ⟨rfl, later⟩
      refine ⟨by omega, ?_⟩
      intro m below
      cases m with
      | zero => exact first
      | succ m =>
        rw [← shift]
        exact later m (Nat.lt_of_succ_lt_succ below)
    · rintro ⟨rfl, all⟩
      refine ⟨i + 1, ⟨all 0 (Nat.succ_pos n), rfl⟩, ih.2 ⟨by omega, ?_⟩⟩
      intro m below
      rw [shift]
      exact all (m + 1) (Nat.succ_lt_succ below)

/-- A repetition without a bound of a set of characters. -/
theorem spans_repeated_chars_iff {text : List Char} {least i j : Nat} {k : CharSet} :
    (Expr.repeated least none false (.chars k)).Spans text i j ↔ ∃ n, least ≤ n ∧ j = i + n ∧
      ∀ m < n, ∃ c, text[i + m]? = some c ∧ k.mem c = true := by
  rw [Expr.Spans]
  constructor
  · rintro ⟨n, enough, -, moves⟩
    exact ⟨n, enough, times_chars_iff.1 moves⟩
  · rintro ⟨n, enough, moves⟩
    exact ⟨n, enough, nofun, times_chars_iff.2 moves⟩

/-- Two expressions in a row span what each of them spans. -/
theorem spans_seq_pair_iff {text : List Char} {e f : Expr} {i j : Nat} :
    (Expr.seq [e, f]).Spans text i j ↔ ∃ k, e.Spans text i k ∧ f.Spans text k j := by
  simp [Expr.Spans, Expr.SpansAll]

/-! ## Characters of identifiers -/

/-- Letters by their code points. -/
theorem isAlpha_iff {c : Char} : c.isAlpha = true ↔
    (65 ≤ c.toNat ∧ c.toNat ≤ 90) ∨ (97 ≤ c.toNat ∧ c.toNat ≤ 122) := by
  delta Char.isAlpha Char.isUpper Char.isLower
  simp [UInt32.le_iff_toNat_le, ← Char.toNat_val]

/-- Word characters by their code points. -/
theorem isWordChar_iff {c : Char} : IsWordChar c ↔
    (48 ≤ c.toNat ∧ c.toNat ≤ 57) ∨ (65 ≤ c.toNat ∧ c.toNat ≤ 90) ∨ c.toNat = 95 ∨
      (97 ≤ c.toNat ∧ c.toNat ≤ 122) := by
  have digit : c.isDigit = true ↔ 48 ≤ c.toNat ∧ c.toNat ≤ 57 := by
    simp [Char.isDigit, UInt32.le_iff_toNat_le, ← Char.toNat_val]
  have mark : c = '_' ↔ c.toNat = 95 := (Char.toNat_inj (d := '_')).symm
  simp only [IsWordChar, Char.isAlphanum, Bool.or_eq_true, isAlpha_iff, digit, mark]
  omega

def letters : CharSet :=
  ⟨[(0x41, 0x5A), (0x61, 0x7A)]⟩

/-- The characters of the pattern that may follow. -/
def wordChars : CharSet :=
  ⟨[(0x30, 0x39), (0x41, 0x5A), (0x5F, 0x5F), (0x61, 0x7A)]⟩

/-- The first set of the pattern holds the letters. -/
theorem mem_letters {c : Char} : letters.mem c = true ↔ c.isAlpha = true := by
  simp only [CharSet.mem, letters, Unicode.inRanges, isAlpha_iff]
  grind

/-- The second holds the word characters. -/
theorem mem_wordChars {c : Char} : wordChars.mem c = true ↔ IsWordChar c := by
  simp only [CharSet.mem, wordChars, Unicode.inRanges, isWordChar_iff]
  grind

/-! ## The pattern -/

def identifierExpr : Expr :=
  .seq [.repeated 1 none false (.chars letters), .repeated 0 none false (.chars wordChars)]

/-- What the reader makes of the default pattern. -/
theorem whole?_defaultNaming :
    Read.whole? LegalPattern.defaultNaming.toList = some ⟨identifierExpr, 4⟩ := rfl

/-- The expression matches a text as a whole just if that is an identifier. -/
theorem spans_identifierExpr_iff {text : List Char} :
    identifierExpr.Spans text 0 text.length ↔ IsIdentifier text := by
  simp only [identifierExpr, spans_seq_pair_iff, spans_repeated_chars_iff, mem_letters, mem_wordChars,
    Nat.zero_add]
  constructor
  · rintro ⟨front, ⟨_, enough, rfl, first⟩, back, -, whole, later⟩
    cases text with
    | nil => exact absurd whole (by simp; omega)
    | cons c rest =>
      rcases first 0 enough with ⟨c', here, letter⟩
      cases here
      refine ⟨c, rest, rfl, letter, ?_⟩
      intro d hd
      -- Every further character belongs to the first or to the second repetition.
      rcases List.getElem_of_mem hd with ⟨m, inside, rfl⟩
      have place : (c :: rest)[m + 1]? = Option.some rest[m] := by simp [inside]
      by_cases early : m + 1 < front
      · rcases first (m + 1) early with ⟨d, there, letter'⟩
        cases place.symm.trans there
        exact .of_isAlpha letter'
      · have behind : m + 1 - front < back := by
          have long : rest.length + 1 = front + back := whole
          omega
        have sum : front + (m + 1 - front) = m + 1 := by omega
        rcases later (m + 1 - front) behind with ⟨d, there, word⟩
        rw [sum] at there
        cases place.symm.trans there
        exact word
  · rintro ⟨c, rest, rfl, letter, later⟩
    refine ⟨1, ⟨1, Nat.le_refl 1, rfl, ?_⟩, rest.length, Nat.zero_le _, Nat.add_comm _ _, ?_⟩
    · intro m below
      obtain rfl := Nat.lt_one_iff.1 below
      exact ⟨c, rfl, letter⟩
    · intro m below
      refine ⟨rest[m], ?_, later rest[m] (List.getElem_mem below)⟩
      rw [Nat.add_comm, List.getElem?_cons_succ, List.getElem?_eq_getElem below]

end Pattern

namespace Libraries

open Pattern

/-- With these libraries the default pattern accepts the identifiers. -/
theorem namesIdentifiers : LegalPattern.NamesIdentifiers := by
  have readable : (LegalPattern.compile LegalPattern.defaultNaming).isOk = true := by decide +kernel
  cases compiled : LegalPattern.compile LegalPattern.defaultNaming with
  | error e =>
    rw [compiled] at readable
    cases readable
  | ok p =>
    refine ⟨p, compiled, fun text => ?_⟩
    rw [LegalPattern.accepts_iff exprMeaning_lawful ⟨_, whole?_defaultNaming⟩ compiled,
      exprMeaning_matches_iff whole?_defaultNaming, and_iff_right (Nat.zero_le _)]
    exact spans_identifierExpr_iff

end Libraries
end StoryLoom
