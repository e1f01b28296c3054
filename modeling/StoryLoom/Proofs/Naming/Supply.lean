import Mathlib.Data.Finset.Card
import StoryLoom.Proofs.Naming.Candidates
import StoryLoom.Proofs.Naming.History
import StoryLoom.Proofs.Numeral.Reading
import StoryLoom.Proofs.Pattern.Stripping

/-!
# Supply — names do not run out before the numbers do

- `isIdentifier_baseOf`  : every text has a base under the grammar of names
- `candidate_eq`         : every number gives a legal candidate, written out in full
- `nodup_candidates`     : no two candidates are one text
- `exists_free_candidate`: so one is left where no more words are in use than there are numbers
- `default_names_suffice`: then every call for a name succeeds

There is one candidate more than there are numbers, since the base is tried by itself first. So words may use
up as many candidates as there are numbers, and the last one is still free.
-/

namespace StoryLoom
namespace Namer

open Pattern

/-! ## Candidates under the grammar of names -/

section Grammar

variable {accepts : List Char → Bool} {base : List Char}

/-- The legal texts are the identifiers. -/
def AcceptsIdentifiers (accepts : List Char → Bool) : Prop :=
  ∀ text, accepts text = true ↔ IsIdentifier text

/-- A letter alone is an identifier. -/
theorem isIdentifier_single {c : Char} (letter : c.isAlpha = true) : IsIdentifier [c] :=
  ⟨c, [], rfl, letter, nofun⟩

/-- A pattern that accepts identifiers accepts the letter that each begins with. -/
theorem AcceptsIdentifiers.starting (grammar : AcceptsIdentifiers accepts) : Starting accepts := by
  intro text legal
  rcases (grammar text).1 legal with ⟨c, rest, rfl, letter, -⟩
  exact ⟨c, rest, rfl, (grammar [c]).2 (isIdentifier_single letter)⟩

/-- Every text has a base, if only the word for texts without one. -/
theorem isIdentifier_baseOf (grammar : AcceptsIdentifiers accepts) (text : String) :
    IsIdentifier (baseOf accepts text) := by
  have word : IsIdentifier unnamed := ⟨'u', "nnamed".toList, rfl, rfl, by simp [IsWordChar]⟩
  by_cases empty : legalise accepts (Text.trimList text.toList) = []
  · have fallback : baseOf accepts text = legalise accepts unnamed := by simp [baseOf, empty]
    rw [fallback, legalise_of_accepts grammar.starting ((grammar unnamed).2 word)]
    exact word
  · have own : baseOf accepts text = legalise accepts (Text.trimList text.toList) := by
      simp [baseOf, empty]
    rw [own]
    rcases legalise_eq_nil_or_accepts grammar.starting (Text.trimList text.toList) with none | legal
    · exact absurd none empty
    · exact (grammar _).1 legal

/-- Digits in base 36 may follow the first letter. -/
theorem isWordChar_of_isDigit {c : Char} (h : Base36.IsDigit c) : IsWordChar c := by
  rcases h with digit | upper
  · left
    simp [Char.isAlphanum, digit]
  · have letter : c.isAlpha = true := by
      delta Char.isAlpha
      simp [upper]
    exact .of_isAlpha letter

/-- An identifier with a number behind it is an identifier. -/
theorem isIdentifier_append_digits (identifier : IsIdentifier base) (number : Nat) :
    IsIdentifier (base ++ '_' :: Base36.digits number) := by
  rcases identifier with ⟨c, rest, rfl, letter, later⟩
  refine ⟨c, rest ++ '_' :: Base36.digits number, rfl, letter, ?_⟩
  intro d hd
  rcases List.mem_append.1 hd with inside | behind
  · exact later d inside
  · rcases List.mem_cons.1 behind with rfl | digit
    · exact .inr rfl
    · exact isWordChar_of_isDigit (Base36.isDigit_of_mem_digits digit)

/-- Making a candidate legal changes nothing. -/
theorem candidate_eq (grammar : AcceptsIdentifiers accepts) (identifier : IsIdentifier base)
    (number : Nat) : candidate accepts base number = base ++ '_' :: Base36.digits number :=
  legalise_of_accepts grammar.starting ((grammar _).2 (isIdentifier_append_digits identifier number))

/-- Every candidate is an identifier. -/
theorem isIdentifier_of_mem_candidates (grammar : AcceptsIdentifiers accepts)
    (identifier : IsIdentifier base) {count : Nat} {name : List Char}
    (h : name ∈ candidates accepts base count) : IsIdentifier name := by
  rcases List.mem_cons.1 h with rfl | numbered
  · exact identifier
  · rcases List.mem_map.1 numbered with ⟨number, -, rfl⟩
    rw [candidate_eq grammar identifier]
    exact isIdentifier_append_digits identifier number

/-- No two candidates are one text: those with a number are longer than the base, and their numerals
differ. -/
theorem nodup_candidates (grammar : AcceptsIdentifiers accepts) (identifier : IsIdentifier base)
    (count : Nat) : (candidates accepts base count).Nodup := by
  have numbered_injective : Function.Injective (candidate accepts base) := by
    intro a b same
    rw [candidate_eq grammar identifier, candidate_eq grammar identifier] at same
    have tails : '_' :: Base36.digits a = '_' :: Base36.digits b := List.append_cancel_left same
    exact Base36.digits_injective (List.cons.inj tails).2
  have base_unnumbered : base ∉ numbered accepts base 0 count := by
    intro again
    rcases List.mem_map.1 again with ⟨number, -, same⟩
    rw [candidate_eq grammar identifier] at same
    have longer := congrArg List.length same
    simp at longer
  exact List.nodup_cons.2 ⟨base_unnumbered, (List.nodup_range' 1).map numbered_injective⟩

end Grammar

/-! ## A candidate that is left -/

section Left

variable {n : Namer} {accepts : List Char → Bool} {base : List Char}

/-- The words that can be no new name: those taken and those reserved, each once. -/
def used (n : Namer) : Finset String :=
  (n.taken ++ n.reserved).toFinset

/-- Where no more words are in use than there are numbers, a candidate is free. -/
theorem exists_free_candidate (grammar : AcceptsIdentifiers accepts) (identifier : IsIdentifier base)
    (room : n.used.card ≤ n.maxAttempts) :
    ∃ c ∈ candidates accepts base n.maxAttempts, n.Free accepts c := by
  -- The candidates outnumber the words in use, so one of them is no such word.
  let tried := (candidates accepts base n.maxAttempts).map String.ofList
  have distinct : tried.Nodup :=
    (nodup_candidates grammar identifier n.maxAttempts).map fun _ _ same => String.ofList_injective same
  have long : tried.length = n.maxAttempts + 1 := by simp [tried, candidates, numbered]
  have more : n.used.card < tried.toFinset.card := by
    rw [List.toFinset_card_of_nodup distinct, long]
    exact Nat.lt_succ_of_le room
  rcases Finset.exists_mem_notMem_of_card_lt_card more with ⟨name, among, unused⟩
  rcases List.mem_map.1 (List.mem_toFinset.1 among) with ⟨c, hc, rfl⟩
  have legal : IsIdentifier c := isIdentifier_of_mem_candidates grammar identifier hc
  have apart : String.ofList c ∉ n.taken ∧ String.ofList c ∉ n.reserved := by
    simpa [used] using unused
  have accepted : accepts c = true := (grammar c).2 legal
  exact ⟨c, hc, grammar.starting.ne_nil accepted, accepted, apart.1, apart.2⟩

/-- Then a call for a name succeeds. -/
theorem exists_name_of_card_le (grammar : AcceptsIdentifiers accepts)
    (room : n.used.card ≤ n.maxAttempts) (identity : Identity) (text : String)
    (key : Option AliasKey) : ∃ name next, uniqueName identity text key accepts n = .ok name next := by
  -- A name that was given before, or that an alias supplies, needs no candidate.
  cases named : n.nameOf? identity with
  | some name => exact ⟨name, n, uniqueName_of_named named text key accepts⟩
  | none =>
    cases held : n.aliasName? key with
    | some name =>
      refine ⟨name, { n with names := n.names.insert identity name }, ?_⟩
      rw [uniqueName_of_unnamed named, held]
    | none =>
      have identifier : IsIdentifier (baseOf accepts text) := isIdentifier_baseOf grammar text
      have usable : baseOf accepts text ≠ [] := grammar.starting.ne_nil ((grammar _).2 identifier)
      rcases build_of_free usable (exists_free_candidate grammar identifier room) with
        ⟨chars, -, built⟩
      exact ⟨_, _, uniqueName_of_build_ok named held built⟩

end Left

/-! ## Names over a run -/

/-- No request changes how often is tried. -/
theorem Effect.maxAttempts_eq {n next : Namer} {c : Call} (h : Effect n c next) :
    next.maxAttempts = n.maxAttempts := by
  cases h <;> rfl

theorem maxAttempts_afterAll (n : Namer) (calls : List Call) :
    (n.afterAll calls).maxAttempts = n.maxAttempts := by
  induction calls generalizing n with
  | nil => rfl
  | cons c rest ih => exact (ih (n.after c)).trans (effect_after n c).maxAttempts_eq

/-- The pattern that is used where a dictionary has none accepts the identifiers. With it, every call for a
name succeeds after any run of calls, under whatever patterns, as long as no more words are taken or reserved
than there are numbers to try. -/
theorem default_names_suffice [PatternLibrary] (grammar : LegalPattern.NamesIdentifiers) :
    ∃ p, LegalPattern.compile LegalPattern.defaultNaming = .ok p ∧
      (∀ text, p.accepts text = true ↔ IsIdentifier text) ∧
      ∀ (reserved : List String) (maxAttempts : Nat) (calls : List Call),
        let n := (start reserved maxAttempts).afterAll calls
        n.used.card ≤ maxAttempts → ∀ (identity : Identity) (text : String) (key : Option AliasKey),
          ∃ name next, uniqueName identity text key p.accepts n = .ok name next := by
  rcases grammar with ⟨p, compiled, grammar⟩
  refine ⟨p, compiled, grammar, ?_⟩
  intro reserved maxAttempts calls n room
  have bound : n.maxAttempts = maxAttempts := maxAttempts_afterAll (start reserved maxAttempts) calls
  rw [← bound] at room
  exact exists_name_of_card_le grammar room

open Libraries

/-- Of three candidates two are in use, one that is reserved and one that was given, and the last one is
left. -/
theorem third_candidate_left :
    let n := (start ["unnamed"] 2).afterAll
      [⟨.component ⟨0⟩, "unnamed_0", none, fun text => text.all Char.isAlphanum || text.length = 9⟩]
    n.used.card = 2 ∧ ∃ p name next, LegalPattern.compile LegalPattern.defaultNaming = .ok p ∧
      uniqueName (.component ⟨1⟩) "!" none p.accepts n = .ok name next := by
  intro n
  have full : n.used.card = 2 := by decide +kernel
  rcases default_names_suffice namesIdentifiers with ⟨p, compiled, -, suffice⟩
  rcases suffice ["unnamed"] 2 _ full.le (.component ⟨1⟩) "!" none with ⟨name, next, answered⟩
  exact ⟨full, p, name, next, compiled, answered⟩

end Namer
end StoryLoom
