import StoryLoom.Dictionary.Check
import StoryLoom.Proofs.Results

/-!
# Clean — what a dictionary without findings promises

- `LegalPattern.Readable` : a pattern that can be read
- `Dictionary.Accepts`    : templates in which the linter finds nothing
- `accepts_cons`          : piece by piece
- `Dictionary.Clean`      : all templates and patterns of a dictionary are in order
- `clean_of_lint`         : so they are where the linter finds nothing

The linter walks a template level by level, and resolution walks it in depth. What both share is
said here of one piece and its body.
-/

namespace StoryLoom

theorem defectUnless_eq_nil_iff {ok : Bool} {defect : Defect} :
    defectUnless ok defect = [] ↔ ok = true := by
  cases ok <;> simp [defectUnless]

theorem Dictionary.mem_sortedKeys {α : Type} {t : Table String α} {key : String} {a : α}
    (h : t.get? key = some a) : key ∈ sortedKeys t := by
  rw [sortedKeys, List.mem_mergeSort]
  exact List.mem_map_of_mem (f := Prod.fst) (Table.get?_eq_some_iff.1 h)

variable [PatternLibrary]

def LegalPattern.Readable (pattern : String) : Prop :=
  ∃ p, LegalPattern.compile pattern = .ok p

/-- A template in which the linter finds nothing. -/
def Dictionary.Accepts (d : Dictionary) (template : Template) : Prop :=
  templateDefects d.knowsFormat template = []

/-! ## Pieces -/

/-- A pattern is found fault with just if it cannot be read. -/
theorem patternDefect_eq_nil_iff {defect : String → Pattern.PatternError → Defect}
    {pattern : String} : patternDefect defect pattern = [] ↔ LegalPattern.Readable pattern := by
  unfold patternDefect LegalPattern.Readable
  cases LegalPattern.compile pattern <;> simp

namespace Dictionary

variable {d : Dictionary} {f : Fragment} {rest body : Template}

theorem accepts_nil : d.Accepts [] := rfl

/-- A template is accepted piece by piece, each with all that is inside it. -/
theorem accepts_cons : d.Accepts (f :: rest) ↔
    f.defects d.knowsFormat = [] ∧ f.innerDefects d.knowsFormat = [] ∧ d.Accepts rest := by
  -- The linter lists the defects of the whole level first, so they are put together anew.
  simp only [Accepts, templateDefects, levelDefects, innerDefectsOf, List.flatMap_cons,
    List.append_eq_nil_iff]
  constructor
  · rintro ⟨⟨here, level⟩, inner, below⟩
    exact ⟨here, inner, level, below⟩
  · rintro ⟨here, inner, level, below⟩
    exact ⟨⟨here, level⟩, inner, below⟩

variable {known : String → Bool}

/-- An accepted reference has a label of the vocabulary, and a pattern of its own can be read. -/
theorem reference_of_defects {label : String} {legal : Option String}
    (h : (Fragment.reference label legal).defects known = []) :
    (∃ key, DataKey.parse? label = some key) ∧
      ∀ pattern, legal = some pattern → LegalPattern.Readable pattern := by
  obtain ⟨labelled, patterns⟩ := List.append_eq_nil_iff.1 h
  refine ⟨Option.isSome_iff_exists.1 (defectUnless_eq_nil_iff.1 labelled), ?_⟩
  rintro pattern rfl
  exact patternDefect_eq_nil_iff.1 (by simpa using patterns)

/-- An accepted scope has a label of the vocabulary, and a name where the label takes one. -/
theorem scope_of_defects {label : String} {name : Option String}
    (h : (Fragment.scope label name body).defects known = []) :
    ∃ key, ScopeKey.parse? label = some key ∧ (key.takesName = true → name.isSome = true) := by
  simp only [Fragment.defects] at h
  split at h
  · cases h
  · next key hkey =>
    have named := defectUnless_eq_nil_iff.1 h
    exact ⟨key, hkey, by cases hk : key.takesName <;> simp_all⟩

/-- An accepted series walks a collection of the vocabulary, and an active filter can be read. -/
theorem series_of_defects {source separator : String} {filter : SeriesFilter} {unique : Bool}
    (h : (Fragment.series source separator filter unique body).defects known = []) :
    (∃ key, SeriesKey.parse? source = some key) ∧
      (filter.criterion ≠ .none → LegalPattern.Readable filter.pattern) := by
  obtain ⟨labelled, patterns⟩ := List.append_eq_nil_iff.1 h
  refine ⟨Option.isSome_iff_exists.1 (defectUnless_eq_nil_iff.1 labelled), ?_⟩
  intro filters
  rw [if_neg filters] at patterns
  exact patternDefect_eq_nil_iff.1 patterns

/-- An accepted reference to a format finds its template. -/
theorem format_of_defects {id : String} {onlyFor : Option FormatTarget}
    (h : (Fragment.format id onlyFor).defects d.knowsFormat = []) :
    ∃ template, d.format? id = some template :=
  Option.isSome_iff_exists.1 (defectUnless_eq_nil_iff.1 h)

/-- An accepted conditional tests a fact of the vocabulary. -/
theorem condition_of_defects {condition : String}
    (h : (Fragment.conditional condition body).defects known = []) :
    ∃ parsed, Condition.parse? condition = some parsed :=
  Option.isSome_iff_exists.1 (defectUnless_eq_nil_iff.1 h)

/-! ## The whole dictionary -/

/-- All templates and patterns of a dictionary are in order. -/
structure Clean (d : Dictionary) : Prop where
  naming : ∀ pattern, d.namingPattern = some pattern → LegalPattern.Readable pattern
  values : ∀ name entry, d.type? name = some entry →
    ∀ pattern, entry.legalValues = some pattern → LegalPattern.Readable pattern
  formats : ∀ id template, d.format? id = some template → d.Accepts template
  types : ∀ name entry, d.type? name = some entry → d.Accepts entry.format
  declaration : d.Accepts d.function.declaration
  definition : d.Accepts d.function.definition
  call : d.Accepts d.function.call

theorem readable_of_checkPattern {place : PatternPlace} {pattern : String}
    (h : checkPattern place (some pattern) = .ok ()) : LegalPattern.Readable pattern := by
  simp only [checkPattern] at h
  split at h
  · next p hp => exact ⟨p, hp⟩
  · cases h

/-- All patterns of a valid dictionary can be read: its own, and those of its types. -/
theorem readable_of_validate (h : d.validate = .ok ()) :
    (∀ pattern, d.namingPattern = some pattern → LegalPattern.Readable pattern) ∧
    ∀ name entry, d.type? name = some entry → ∀ pattern, entry.legalValues = some pattern →
      LegalPattern.Readable pattern := by
  obtain ⟨⟨⟩, naming, types⟩ := Results.bind_eq_ok_iff.1 h
  refine ⟨?_, ?_⟩
  · intro pattern hp
    rw [hp] at naming
    exact readable_of_checkPattern naming
  · intro name entry he pattern hp
    have checked := Results.forM_eq_ok_iff.1 types (name, entry) (Table.get?_eq_some_iff.1 he)
    simp only [hp] at checked
    exact readable_of_checkPattern checked

/-- Where the linter finds nothing, it accepts each of the templates that it looks at. -/
theorem accepts_of_lint (h : d.lint = []) : ∀ t ∈ d.templates, d.Accepts t.2 := by
  obtain ⟨-, findings⟩ := List.append_eq_nil_iff.1 h
  intro t ht
  have found := List.flatMap_eq_nil_iff.1 findings t ht
  exact List.map_eq_nil_iff.1 found

/-- A dictionary in which the linter finds nothing is clean. -/
theorem clean_of_lint (h : d.lint = []) : d.Clean := by
  obtain ⟨valid, -⟩ := List.append_eq_nil_iff.1 h
  have accepted := accepts_of_lint h
  have validated : d.validate = .ok () := by
    unfold validityFindings at valid
    split at valid
    · assumption
    · cases valid
  obtain ⟨naming, values⟩ := readable_of_validate validated
  -- Every template of the dictionary is among those that were gone through, under its own place.
  refine ⟨naming, values, ?_, ?_, ?_, ?_, ?_⟩
  · intro id template ht
    refine accepted (.format id, template) ?_
    have listed := List.mem_map_of_mem (f := fun id => (LintPlace.format id,
      (d.formats.get? id).getD [])) (mem_sortedKeys ht)
    have same : d.formats.get? id = some template := ht
    rw [same] at listed
    simp only [templates, List.mem_append]
    exact .inl (.inl listed)
  · intro name entry he
    refine accepted (.type name, entry.format) ?_
    have listed := List.mem_map_of_mem (f := fun name => (LintPlace.type name,
      ((d.types.get? name).map TypeEntry.format).getD [])) (mem_sortedKeys he)
    have same : d.types.get? name = some entry := he
    rw [same] at listed
    simp only [templates, List.mem_append]
    exact .inl (.inr listed)
  · exact accepted (.declaration, _) (by simp [templates])
  · exact accepted (.definition, _) (by simp [templates])
  · exact accepted (.call, _) (by simp [templates])

end Dictionary
end StoryLoom
