import StoryLoom.Proofs.Naming.Giving

/-!
# Candidates — which of the texts tried becomes a name

- `Free`        : texts that can be a new name
- `candidates`  : the texts tried for a name, in their order
- `search_eq`   : a search answers the first of them that is free
- `searchBy_counted` : how often a search checks a text
- `name_is_first_free_candidate` : the name of an identity that has none yet

A search knows how many numbers are left, and says how many were used up when it fails. The two always add
up to the bound, which is what the induction carries.
-/

namespace StoryLoom
namespace Namer

variable {n : Namer} {accepts : List Char → Bool} {base current : List Char} {left number : Nat}

/-! ## Texts that can be a name -/

/-- A text that can be a new name: it is not empty, legal, not taken and no reserved word. -/
def Free (n : Namer) (accepts : List Char → Bool) (name : List Char) : Prop :=
  name ≠ [] ∧ accepts name = true ∧ String.ofList name ∉ n.taken ∧ String.ofList name ∉ n.reserved

instance (name : List Char) : Decidable (n.Free accepts name) :=
  inferInstanceAs (Decidable (_ ∧ _ ∧ _ ∧ _))

theorem isAvailable_iff_free {name : List Char} :
    n.isAvailable accepts name = true ↔ n.Free accepts name := by
  simp [isAvailable, Free, and_assoc]

/-- The first of some texts that can be a new name. -/
def FirstFree (n : Namer) (accepts : List Char → Bool) (texts : List (List Char))
    (name : List Char) : Prop :=
  ∃ before after, texts = before ++ name :: after ∧ n.Free accepts name ∧
    ∀ earlier ∈ before, ¬ n.Free accepts earlier

/-- The first candidate that is available is the first one free. -/
theorem firstFree_of_find? {texts : List (List Char)} {name : List Char}
    (h : texts.find? (n.isAvailable accepts) = some name) : n.FirstFree accepts texts name := by
  rcases List.find?_eq_some_iff_append.1 h with ⟨available, before, after, split, refused⟩
  refine ⟨before, after, split, isAvailable_iff_free.1 available, ?_⟩
  intro earlier hearlier free
  have taken : n.isAvailable accepts earlier = false := by simpa using refused earlier hearlier
  rw [isAvailable_iff_free.2 free] at taken
  cases taken

/-! ## The texts tried -/

/-- The candidates with `count` numbers from `number` on. -/
def numbered (accepts : List Char → Bool) (base : List Char) (number count : Nat) :
    List (List Char) :=
  (List.range' number count).map (candidate accepts base)

/-- The texts tried for a name: the base, then the base with the numbers below `count` behind it. -/
def candidates (accepts : List Char → Bool) (base : List Char) (count : Nat) : List (List Char) :=
  base :: numbered accepts base 0 count

/-- The numbered candidates begin with the next number. -/
theorem numbered_succ (number count : Nat) : numbered accepts base number (count + 1) =
    candidate accepts base number :: numbered accepts base (number + 1) count := by
  simp [numbered, List.range'_succ]

/-- A search answers the first free text among those it may try. -/
theorem search_eq (left number : Nat) (current : List Char) :
    n.search accepts base left number current =
      ((current :: numbered accepts base number left).find? (n.isAvailable accepts)).elim
        (.error ⟨String.ofList base, number + left⟩) .ok := by
  induction left generalizing number current with
  | zero =>
    rw [search_zero]
    split
    · rename_i available
      simp [available]
    · rename_i refused
      simp [refused, numbered]
  | succ left ih =>
    rw [search_succ]
    split
    · rename_i available
      simp [available]
    · rename_i refused
      -- One number less is left and one more is used up.
      have bound : number + 1 + left = number + (left + 1) := by omega
      rw [ih, numbered_succ, bound, List.find?_cons_of_neg (a := current) (by simpa using refused)]

/-! ## How many texts are checked -/

/-- A check that counts its calls. -/
def counted (check : List Char → Bool) (text : List Char) : StateM Nat Bool := do
  modify (· + 1)
  return check text

/-- What a search that counts its checks does with the first text. -/
theorem run_searchBy (check : List Char → Bool) (left number : Nat) (current : List Char)
    (checks : Nat) :
    (searchBy (counted check) accepts base left number current).run checks =
      if check current then (.ok current, checks + 1)
      else
        match left with
        | 0 => (.error ⟨String.ofList base, number⟩, checks + 1)
        | left + 1 =>
          (searchBy (counted check) accepts base left (number + 1)
            (candidate accepts base number)).run (checks + 1) := by
  have asked : (counted check current).run checks = (check current, checks + 1) := rfl
  cases left with
  | zero =>
    rw [searchBy, StateT.run_bind, asked]
    cases check current <;> rfl
  | succ left =>
    rw [searchBy, StateT.run_bind, asked]
    cases check current <;> rfl

/-- A search that counts its checks answers what the search answers, and checks the first text and at most
one more for each number. -/
theorem searchBy_counted (left number : Nat) (current : List Char) (checks : Nat) :
    ∃ more ≤ left, (searchBy (counted (n.isAvailable accepts)) accepts base left number current).run
      checks = (n.search accepts base left number current, checks + 1 + more) := by
  induction left generalizing number current checks with
  | zero =>
    refine ⟨0, Nat.le_refl 0, ?_⟩
    rw [run_searchBy, search_zero]
    split <;> rfl
  | succ left ih =>
    rw [run_searchBy, search_succ]
    split
    · exact ⟨0, Nat.zero_le _, rfl⟩
    · rcases ih (number + 1) (candidate accepts base number) (checks + 1) with ⟨more, le, later⟩
      -- The check of this text is counted before those of the later ones.
      have sum : checks + 1 + 1 + more = checks + 1 + (more + 1) := by omega
      refine ⟨more + 1, Nat.succ_le_succ le, ?_⟩
      rw [← sum]
      exact later

/-! ## The name of an identity that has none -/

section New

variable {text : String}

/-- Where stripping leaves nothing, no candidate is tried. -/
theorem build_of_baseOf_eq_nil (blank : baseOf accepts text = []) :
    n.build accepts text = .error ⟨text, 0⟩ := by
  simp [build, blank]

/-- Otherwise the search starts at the base itself. -/
theorem build_of_baseOf_ne_nil (usable : baseOf accepts text ≠ []) :
    n.build accepts text = n.search accepts (baseOf accepts text) n.maxAttempts 0
      (baseOf accepts text) := by
  simp [build, usable]

/-- What is built on a base: the first free candidate. -/
theorem build_eq (usable : baseOf accepts text ≠ []) : n.build accepts text =
    ((candidates accepts (baseOf accepts text) n.maxAttempts).find? (n.isAvailable accepts)).elim
      (.error ⟨String.ofList (baseOf accepts text), n.maxAttempts⟩) .ok := by
  rw [build_of_baseOf_ne_nil usable, search_eq, Nat.zero_add]
  rfl

/-- Where a candidate is free, the first such one is built. -/
theorem build_of_free (usable : baseOf accepts text ≠ [])
    (free : ∃ c ∈ candidates accepts (baseOf accepts text) n.maxAttempts, n.Free accepts c) :
    ∃ name, n.FirstFree accepts (candidates accepts (baseOf accepts text) n.maxAttempts) name ∧
      n.build accepts text = .ok name := by
  rcases free with ⟨c, tried, free⟩
  have found : ((candidates accepts (baseOf accepts text) n.maxAttempts).find?
      (n.isAvailable accepts)).isSome = true :=
    List.find?_isSome.2 ⟨c, tried, isAvailable_iff_free.2 free⟩
  rcases Option.isSome_iff_exists.1 found with ⟨name, first⟩
  refine ⟨name, firstFree_of_find? first, ?_⟩
  rw [build_eq usable, first]
  rfl

/-- Where no candidate is free, nothing is built. -/
theorem build_of_not_free (usable : baseOf accepts text ≠ [])
    (taken : ∀ c ∈ candidates accepts (baseOf accepts text) n.maxAttempts, ¬ n.Free accepts c) :
    n.build accepts text = .error ⟨String.ofList (baseOf accepts text), n.maxAttempts⟩ := by
  have nowhere : (candidates accepts (baseOf accepts text) n.maxAttempts).find?
      (n.isAvailable accepts) = none := by
    refine List.find?_eq_none.2 ?_
    intro c tried available
    exact taken c tried (isAvailable_iff_free.1 available)
  rw [build_eq usable, nowhere]
  rfl

end New

/-- The name of an identity that has none yet, and that no alias supplies. It is the first free one among
the base and the candidates with a number; without a base, or without a free candidate, there is none. The
search checks at most one text more than there are numbers. -/
theorem name_is_first_free_candidate (n : Namer) (identity : Identity) (text : String)
    (key : Option AliasKey) (accepts : List Char → Bool) (unnamed : n.nameOf? identity = none)
    (unheld : n.aliasName? key = none) :
    let base := baseOf accepts text
    let tried := candidates accepts base n.maxAttempts
    let answered := uniqueName identity text key accepts n
    (base = [] → answered = .error ⟨text, 0⟩ n) ∧
    (base ≠ [] →
      ((∃ c ∈ tried, n.Free accepts c) → ∃ name, n.FirstFree accepts tried name ∧
        answered = .ok (String.ofList name) (n.record identity key (String.ofList name))) ∧
      ((∀ c ∈ tried, ¬ n.Free accepts c) →
        answered = .error ⟨String.ofList base, n.maxAttempts⟩ n) ∧
      ∃ checks ≤ n.maxAttempts + 1,
        (searchBy (counted (n.isAvailable accepts)) accepts base n.maxAttempts 0 base).run 0 =
          (n.build accepts text, checks)) := by
  intro base tried answered
  refine ⟨?_, ?_⟩
  · intro blank
    exact uniqueName_of_build_error unnamed unheld (build_of_baseOf_eq_nil blank)
  · intro usable
    refine ⟨?_, ?_, ?_⟩
    · intro free
      rcases build_of_free usable free with ⟨name, first, built⟩
      exact ⟨name, first, uniqueName_of_build_ok unnamed unheld built⟩
    · intro taken
      exact uniqueName_of_build_error unnamed unheld (build_of_not_free usable taken)
    · -- The base is checked first, then at most one text for each number.
      have counting : ∃ more ≤ n.maxAttempts,
          (searchBy (counted (n.isAvailable accepts)) accepts base n.maxAttempts 0 base).run 0 =
            (n.search accepts base n.maxAttempts 0 base, 0 + 1 + more) :=
        searchBy_counted n.maxAttempts 0 base 0
      rcases counting with ⟨more, le, counts⟩
      refine ⟨0 + 1 + more, by omega, ?_⟩
      rw [build_of_baseOf_ne_nil usable]
      exact counts

/-- A word that is reserved, with both numbers that may be tried behind it. -/
theorem reserved_word_exhausted :
    let n := start ["if", "if_0", "if_1"] 2
    let accepts : List Char → Bool := fun text => text.all fun c => c.isAlphanum || c == '_'
    n.nameOf? (.component ⟨0⟩) = none ∧ n.aliasName? none = none ∧
      uniqueName (.component ⟨0⟩) "if!" none accepts n = .error ⟨"if", 2⟩ n := by
  intro n accepts
  have unnamed : n.nameOf? (.component ⟨0⟩) = none := rfl
  have unheld : n.aliasName? none = none := rfl
  have based : baseOf accepts "if!" = ['i', 'f'] := by decide +kernel
  have laws := name_is_first_free_candidate n (.component ⟨0⟩) "if!" none accepts unnamed unheld
  rw [based] at laws
  exact ⟨unnamed, unheld, (laws.2 (by decide)).2.1 (by decide +kernel)⟩

end Namer
end StoryLoom
