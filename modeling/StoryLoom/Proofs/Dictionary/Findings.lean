import Mathlib.Data.List.Nodup
import Mathlib.Data.List.Perm.Basic
import StoryLoom.Dictionary.Check

/-!
# Findings — the linter reports every defect of every piece once

- `Fragment.HasDefect`    : what is wrong with a piece, its body apart
- `nodesOf`               : all pieces of a template, those inside others included
- `Dictionary.nodes`      : all pieces of a dictionary, each with the place of its template
- `perm_templateDefects`  : the linter meets every piece of a template once
- `lint_counts_defects`   : a finding is reported as often as there are pieces with that defect at that place

The linter goes through a template level by level and through the templates in the order of their names. Here
pieces are listed in depth and templates as they were entered, so both are compared up to order.
-/

namespace StoryLoom

/-! ## Labels, ids and conditions that are not found -/

theorem mem_defectUnless_iff {ok : Bool} {defect x : Defect} :
    x ∈ defectUnless ok defect ↔ ok = false ∧ x = defect := by
  cases ok <;> simp [defectUnless]

theorem mem_defectUnless_isSome_iff {α : Type} {found : Option α} {defect x : Defect} :
    x ∈ defectUnless found.isSome defect ↔ found = none ∧ x = defect := by
  cases found <;> simp [defectUnless]

theorem nodup_defectUnless (ok : Bool) (defect : Defect) : (defectUnless ok defect).Nodup := by
  cases ok <;> simp [defectUnless]

/-- A defect of the label of a piece is not one of its pattern. -/
theorem nodup_label_and_pattern {ok : Bool} {label : Defect} {patterns : List Defect}
    (once : patterns.Nodup) (other : label ∉ patterns) : (defectUnless ok label ++ patterns).Nodup := by
  refine List.nodup_append.2 ⟨nodup_defectUnless ok label, once, ?_⟩
  rintro y labelled z pattern rfl
  rcases mem_defectUnless_iff.1 labelled with ⟨-, rfl⟩
  exact other pattern

/-- Two scopes are looked up by a name. -/
theorem ScopeKey.takesName_iff {key : ScopeKey} :
    key.takesName = true ↔ key = .argument ∨ key = .slotParameter := by
  cases key <;> simp [takesName]

variable [PatternLibrary]

/-! ## Defects of one piece -/

/-- What is wrong with a piece, its body apart. -/
inductive Fragment.HasDefect (d : Dictionary) : Fragment → Defect → Prop
  | reference {label : String} {legal : Option String} (unknown : DataKey.parse? label = none) :
      HasDefect d (.reference label legal) (.unknownReference label)
  | legality {label pattern : String} {cause : Pattern.PatternError}
      (unreadable : LegalPattern.compile pattern = .error cause) :
      HasDefect d (.reference label (some pattern)) (.badLegality pattern cause)
  | scope {label : String} {name : Option String} {body : Template}
      (unknown : ScopeKey.parse? label = none) :
      HasDefect d (.scope label name body) (.unknownScope label)
  | unnamed {label : String} {key : ScopeKey} {body : Template}
      (known : ScopeKey.parse? label = some key)
      (parameter : key = .argument ∨ key = .slotParameter) :
      HasDefect d (.scope label none body) (.unnamedScope label)
  | series {source separator : String} {filter : SeriesFilter} {unique : Bool} {body : Template}
      (unknown : SeriesKey.parse? source = none) :
      HasDefect d (.series source separator filter unique body) (.unknownSeries source)
  | filter {source separator : String} {filter : SeriesFilter} {unique : Bool} {body : Template}
      {cause : Pattern.PatternError} (active : filter.criterion ≠ .none)
      (unreadable : LegalPattern.compile filter.pattern = .error cause) :
      HasDefect d (.series source separator filter unique body) (.badFilter filter.pattern cause)
  | format {id : String} {onlyFor : Option FormatTarget} (unknown : d.format? id = none) :
      HasDefect d (.format id onlyFor) (.unknownFormat id)
  | conditional {condition : String} {body : Template}
      (unknown : Condition.parse? condition = none) :
      HasDefect d (.conditional condition body) (.unknownCondition condition)

/-! The linter asks whether a label, an id or a condition is found, and whether a pattern can be compiled. -/

/-- The defect of a pattern carries the cause for which it is refused. -/
theorem mem_patternDefect_iff {defect : String → Pattern.PatternError → Defect} {pattern : String}
    {x : Defect} : x ∈ patternDefect defect pattern ↔
      ∃ cause, LegalPattern.compile pattern = .error cause ∧ x = defect pattern cause := by
  unfold patternDefect
  cases LegalPattern.compile pattern <;> simp

theorem nodup_patternDefect (defect : String → Pattern.PatternError → Defect) (pattern : String) :
    (patternDefect defect pattern).Nodup := by
  unfold patternDefect
  cases LegalPattern.compile pattern <;> simp

namespace Fragment

variable {d : Dictionary} {x : Defect}

/-- Each defect that is reported is one. -/
theorem hasDefect_of_mem {f : Fragment} (found : x ∈ f.defects d.knowsFormat) : f.HasDefect d x := by
  -- For each kind of piece, what its check reports is one of the things that can be wrong with it.
  cases f with
  | literal text => cases found
  | reference label legal =>
    rcases List.mem_append.1 found with labelled | pattern
    · rcases mem_defectUnless_isSome_iff.1 labelled with ⟨unknown, rfl⟩
      exact .reference unknown
    · rcases List.mem_flatMap.1 pattern with ⟨source, own, found⟩
      rcases mem_patternDefect_iff.1 found with ⟨cause, unreadable, rfl⟩
      rcases Option.mem_toList.1 own with rfl
      exact .legality unreadable
  | scope label name body =>
    cases parsed : ScopeKey.parse? label with
    | none =>
      simp only [defects, parsed, List.mem_singleton] at found
      rcases found with rfl
      exact .scope parsed
    | some key =>
      simp only [defects, parsed] at found
      rcases mem_defectUnless_iff.1 found with ⟨refused, rfl⟩
      cases name with
      | none => exact .unnamed parsed (ScopeKey.takesName_iff.1 (by simpa using refused))
      | some given => simp at refused
  | series source separator filter unique body =>
    rcases List.mem_append.1 found with labelled | pattern
    · rcases mem_defectUnless_isSome_iff.1 labelled with ⟨unknown, rfl⟩
      exact .series unknown
    · by_cases idle : filter.criterion = .none
      · rw [if_pos idle] at pattern
        cases pattern
      · rw [if_neg idle] at pattern
        rcases mem_patternDefect_iff.1 pattern with ⟨cause, unreadable, rfl⟩
        exact .filter idle unreadable
  | line body => cases found
  | indent body => cases found
  | format id onlyFor =>
    rcases mem_defectUnless_isSome_iff.1 found with ⟨unknown, rfl⟩
    exact .format unknown
  | conditional condition body =>
    rcases mem_defectUnless_isSome_iff.1 found with ⟨unknown, rfl⟩
    exact .conditional unknown

/-- Each defect is reported. -/
theorem HasDefect.mem_defects {f : Fragment} (defect : f.HasDefect d x) :
    x ∈ f.defects d.knowsFormat := by
  cases defect with
  | reference unknown =>
    exact List.mem_append_left _ (mem_defectUnless_isSome_iff.2 ⟨unknown, rfl⟩)
  | legality unreadable =>
    refine List.mem_append_right _ (List.mem_flatMap.2 ⟨_, Option.mem_toList.2 rfl, ?_⟩)
    exact mem_patternDefect_iff.2 ⟨_, unreadable, rfl⟩
  | scope unknown =>
    simp only [defects, unknown, List.mem_singleton]
  | unnamed known parameter =>
    simp only [defects, known]
    exact mem_defectUnless_iff.2 ⟨by simp [ScopeKey.takesName_iff.2 parameter], rfl⟩
  | series unknown =>
    exact List.mem_append_left _ (mem_defectUnless_isSome_iff.2 ⟨unknown, rfl⟩)
  | filter active unreadable =>
    apply List.mem_append_right
    rw [if_neg active]
    exact mem_patternDefect_iff.2 ⟨_, unreadable, rfl⟩
  | format unknown => exact mem_defectUnless_isSome_iff.2 ⟨unknown, rfl⟩
  | conditional unknown => exact mem_defectUnless_isSome_iff.2 ⟨unknown, rfl⟩

/-- The linter finds the defects of a piece. -/
theorem mem_defects_iff {f : Fragment} : x ∈ f.defects d.knowsFormat ↔ f.HasDefect d x :=
  ⟨hasDefect_of_mem, HasDefect.mem_defects⟩

instance (f : Fragment) : Decidable (f.HasDefect d x) :=
  decidable_of_iff _ mem_defects_iff

/-- The linter finds each defect of a piece once. -/
theorem nodup_defects (known : String → Bool) (f : Fragment) : (f.defects known).Nodup := by
  cases f with
  | literal text => exact List.nodup_nil
  | reference label legal =>
    cases legal with
    | none => exact nodup_label_and_pattern List.nodup_nil List.not_mem_nil
    | some pattern =>
      apply nodup_label_and_pattern
      · simpa using nodup_patternDefect .badLegality pattern
      · simp [mem_patternDefect_iff]
  | scope label name body =>
    simp only [defects]
    split
    · simp
    · exact nodup_defectUnless _ _
  | series source separator filter unique body =>
    by_cases idle : filter.criterion = .none
    · simp only [defects, if_pos idle]
      exact nodup_label_and_pattern List.nodup_nil List.not_mem_nil
    · simp only [defects, if_neg idle]
      apply nodup_label_and_pattern
      · exact nodup_patternDefect .badFilter filter.pattern
      · simp [mem_patternDefect_iff]
  | line body => exact List.nodup_nil
  | indent body => exact List.nodup_nil
  | format id onlyFor => exact nodup_defectUnless _ _
  | conditional condition body => exact nodup_defectUnless _ _

end Fragment

/-! ## Pieces inside pieces -/

mutual

/-- A piece with all pieces inside it. -/
def Fragment.nodes : Fragment → List Fragment
  | .literal text => [.literal text]
  | .reference label legal => [.reference label legal]
  | .scope label name body => .scope label name body :: nodesOf body
  | .series source separator filter unique body =>
    .series source separator filter unique body :: nodesOf body
  | .line body => .line body :: nodesOf body
  | .indent body => .indent body :: nodesOf body
  | .format id onlyFor => [.format id onlyFor]
  | .conditional condition body => .conditional condition body :: nodesOf body

def nodesOf : List Fragment → List Fragment
  | [] => []
  | f :: rest => f.nodes ++ nodesOf rest

end

/-! The induction is on the template: the defects in a body are found with the piece that has the body. -/

mutual

/-- The defects of a piece and of its bodies are those of all pieces inside it, which are only reported in
another order. -/
theorem Fragment.perm_innerDefects (known : String → Bool) (f : Fragment) :
    (f.defects known ++ f.innerDefects known).Perm (f.nodes.flatMap (Fragment.defects known)) := by
  cases f with
  | literal text => exact .refl _
  | reference label legal => simp [Fragment.innerDefects, Fragment.nodes]
  | scope label name body => exact (perm_templateDefects known body).append_left _
  | series source separator filter unique body =>
    exact (perm_templateDefects known body).append_left _
  | line body => exact (perm_templateDefects known body).append_left _
  | indent body => exact (perm_templateDefects known body).append_left _
  | format id onlyFor => simp [Fragment.innerDefects, Fragment.nodes]
  | conditional condition body => exact (perm_templateDefects known body).append_left _

/-- Level by level the linter meets every piece of a template once. -/
theorem perm_templateDefects (known : String → Bool) (template : List Fragment) :
    (templateDefects known template).Perm ((nodesOf template).flatMap (Fragment.defects known)) := by
  cases template with
  | nil => exact .refl _
  | cons f rest =>
    have first := f.perm_innerDefects known
    have others := perm_templateDefects known rest
    -- The linter has the whole level first, so what is inside the first piece moves to its front.
    have regrouped : (templateDefects known (f :: rest)).Perm
        ((f.defects known ++ f.innerDefects known) ++ templateDefects known rest) := by
      simp only [templateDefects, levelDefects, innerDefectsOf, List.flatMap_cons, List.append_assoc]
      exact (List.perm_append_comm_assoc _ _ _).append_left _
    apply regrouped.trans
    simpa only [nodesOf, List.flatMap_append] using first.append others

end

/-! ## Pieces of a dictionary -/

open scoped List

namespace Dictionary

/-- The templates of a dictionary with their places, as they were entered. -/
def entered (d : Dictionary) : List (LintPlace × Template) :=
  d.formats.entries.map (fun e => (.format e.1, e.2)) ++
    d.types.entries.map (fun e => (.type e.1, e.2.format)) ++
    [(.declaration, d.function.declaration), (.definition, d.function.definition),
      (.call, d.function.call)]

/-- All pieces of a dictionary, at every depth, each with the place of its template. -/
def nodes (d : Dictionary) : List (LintPlace × Fragment) :=
  d.entered.flatMap fun t => (nodesOf t.2).map (t.1, ·)

def pieceFindings (d : Dictionary) (n : LintPlace × Fragment) : List Finding :=
  (n.2.defects d.knowsFormat).map fun x => ⟨n.1, .defect x⟩

variable {d : Dictionary}

omit [PatternLibrary] in
/-- What is looked up in the order of the keys was entered in some order. -/
theorem perm_map_sortedKeys {α β : Type} (t : Table String α) (f : String → Option α → β) :
    ((sortedKeys t).map fun key => f key (t.get? key)).Perm
      (t.entries.map fun e => f e.1 (some e.2)) := by
  have stored : t.keys.map (fun key => f key (t.get? key)) =
      t.entries.map fun e => f e.1 (some e.2) := by
    rw [Table.keys, List.map_map]
    apply List.map_congr_left
    intro e he
    rw [Function.comp_apply, Table.get?_eq_some_iff.2 he]
  exact stored ▸ (List.mergeSort_perm t.keys _).map _

omit [PatternLibrary] in
/-- The templates are those that were entered, looked at in another order. -/
theorem perm_templates (d : Dictionary) : d.templates.Perm d.entered := by
  have formats := perm_map_sortedKeys d.formats fun id t => (LintPlace.format id, t.getD [])
  have types := perm_map_sortedKeys d.types fun name e =>
    (LintPlace.type name, (e.map TypeEntry.format).getD [])
  exact (formats.append types).append_right _

/-- Validity apart, the findings are those about the pieces. -/
theorem perm_templateFindings (d : Dictionary) :
    (d.templates.flatMap fun t => d.templateFindings t.1 t.2).Perm (d.nodes.flatMap d.pieceFindings) := by
  have each : ∀ t ∈ d.entered, (d.templateFindings t.1 t.2).Perm
      (((nodesOf t.2).map (t.1, ·)).flatMap d.pieceFindings) := by
    intro t _
    have met := (perm_templateDefects d.knowsFormat t.2).map fun x => (⟨t.1, .defect x⟩ : Finding)
    rw [List.map_flatMap] at met
    rw [List.flatMap_map]
    exact met
  calc (d.templates.flatMap fun t => d.templateFindings t.1 t.2)
    _ ~ d.entered.flatMap fun t => d.templateFindings t.1 t.2 := d.perm_templates.flatMap_right _
    _ ~ d.entered.flatMap fun t => ((nodesOf t.2).map (t.1, ·)).flatMap d.pieceFindings :=
        List.Perm.flatMap_left _ each
    _ = d.nodes.flatMap d.pieceFindings := by rw [nodes, List.flatMap_assoc]

/-! ## Counting findings -/

omit [PatternLibrary] in
/-- Where each member adds a thing once or not at all, the thing is there as often as members add it. -/
theorem count_flatMap_eq_countP {α β : Type} [BEq β] {l : List α} {f : α → List β} {b : β}
    {adds : α → Bool} (once : ∀ a ∈ l, (f a).count b = if adds a then 1 else 0) :
    (l.flatMap f).count b = l.countP adds := by
  induction l with
  | nil => rfl
  | cons a rest ih =>
    have first := once a List.mem_cons_self
    have later := ih fun c hc => once c (List.mem_cons_of_mem a hc)
    rw [List.flatMap_cons, List.count_append, List.countP_cons, first, later, Nat.add_comm]

/-- A finding is made about a piece once, where the piece has that defect at that place. -/
theorem count_pieceFindings (d : Dictionary) (n : LintPlace × Fragment) (place : LintPlace) (x : Defect) :
    (d.pieceFindings n).count ⟨place, .defect x⟩ =
      if n.1 = place ∧ n.2.HasDefect d x then 1 else 0 := by
  have injective : Function.Injective fun x => (⟨n.1, .defect x⟩ : Finding) := by
    intro y z same
    cases same
    rfl
  have once : (d.pieceFindings n).Nodup := (n.2.nodup_defects d.knowsFormat).map injective
  have made : (⟨place, .defect x⟩ : Finding) ∈ d.pieceFindings n ↔ n.1 = place ∧ n.2.HasDefect d x := by
    rw [pieceFindings, List.mem_map, ← Fragment.mem_defects_iff]
    constructor
    · rintro ⟨y, hy, same⟩
      cases same
      exact ⟨rfl, hy⟩
    · rintro ⟨rfl, hx⟩
      exact ⟨x, hx, rfl⟩
  -- A piece has each of its defects once, so counting is asking.
  rw [once.count]
  simp only [made]

/-- The check of the patterns reports no defect of a piece. -/
theorem count_validityFindings_defect (d : Dictionary) (place : LintPlace) (x : Defect) :
    d.validityFindings.count ⟨place, .defect x⟩ = 0 := by
  apply List.count_eq_zero.2
  rw [validityFindings]
  cases d.validate <;> simp

/-- Where a dictionary is not valid, that is reported once, for the dictionary as a whole. -/
theorem count_validityFindings_invalid (d : Dictionary) (place : LintPlace) (cause : DictionaryError) :
    d.validityFindings.count ⟨place, .invalid cause⟩ =
      if place = .dictionary ∧ d.validate = .error cause then 1 else 0 := by
  rw [validityFindings]
  cases d.validate with
  | ok => simp
  | error e =>
    by_cases same : place = .dictionary ∧ (.error e : Except DictionaryError Unit) = .error cause
    · rw [if_pos same]
      rcases same with ⟨rfl, same⟩
      cases same
      exact List.count_singleton_self
    · rw [if_neg same]
      apply List.count_eq_zero.2
      intro listed
      cases List.mem_singleton.1 listed
      exact same ⟨rfl, rfl⟩

/-- No finding of this kind exactly if the dictionary is valid. -/
theorem validityFindings_eq_nil_iff : d.validityFindings = [] ↔ d.validate = .ok () := by
  rw [validityFindings]
  cases d.validate <;> simp

/-- There are no findings about pieces just if no piece has a defect. -/
theorem pieceFindings_eq_nil_iff :
    d.nodes.flatMap d.pieceFindings = [] ↔ ∀ n ∈ d.nodes, ∀ x, ¬ n.2.HasDefect d x := by
  rw [List.flatMap_eq_nil_iff]
  apply forall₂_congr
  intro n _
  rw [pieceFindings, List.map_eq_nil_iff, List.eq_nil_iff_forall_not_mem]
  simp only [Fragment.mem_defects_iff]

/-- The linter reports a defect as often as there are pieces that have it in the templates at a place, and
that the dictionary is not valid just once if so. It finds nothing just if there is nothing to find. -/
theorem lint_counts_defects (d : Dictionary) :
    (∀ place x, d.lint.count ⟨place, .defect x⟩ =
      d.nodes.countP fun n => n.1 = place ∧ n.2.HasDefect d x) ∧
    (∀ place cause, d.lint.count ⟨place, .invalid cause⟩ =
      if place = .dictionary ∧ d.validate = .error cause then 1 else 0) ∧
    (d.lint = [] ↔ (∀ n ∈ d.nodes, ∀ x, ¬ n.2.HasDefect d x) ∧ d.validate = .ok ()) := by
  -- The linter goes level by level. Counting does not mind, so the pieces may be taken in their own order.
  have met := d.perm_templateFindings
  refine ⟨?_, ?_, ?_⟩
  · intro place x
    have counted : (d.nodes.flatMap d.pieceFindings).count ⟨place, .defect x⟩ =
        d.nodes.countP fun n => n.1 = place ∧ n.2.HasDefect d x := by
      apply count_flatMap_eq_countP
      intro n _
      simpa using d.count_pieceFindings n place x
    rw [lint, List.count_append, count_validityFindings_defect, met.count_eq, counted, Nat.zero_add]
  · intro place cause
    have other : (d.nodes.flatMap d.pieceFindings).count ⟨place, .invalid cause⟩ = 0 := by
      apply List.count_eq_zero.2
      simp [pieceFindings]
    rw [lint, List.count_append, count_validityFindings_invalid, met.count_eq, other, Nat.add_zero]
  · rw [lint, List.append_eq_nil_iff, validityFindings_eq_nil_iff, and_comm]
    have empty : (d.templates.flatMap fun t => d.templateFindings t.1 t.2) = [] ↔
        d.nodes.flatMap d.pieceFindings = [] :=
      ⟨fun none => (none ▸ met.symm).eq_nil, fun none => (none ▸ met).eq_nil⟩
    rw [empty, pieceFindings_eq_nil_iff]

end Dictionary
end StoryLoom
