import StoryLoom.Proofs.Dictionary.Layers

/-!
# CleanLayers — dictionaries without findings, laid over each other

- `validate_eq_ok_iff` : a dictionary is valid just if all its patterns can be read
- `lint_eq_nil_iff`    : the linter finds nothing just if the dictionary is clean
- `Knows`, `accepts_of_knows` : what is accepted stays so where more formats are known
- `Clean.merge`        : a clean dictionary over a clean one is clean
- `layering_keeps_clean` : so a generator with clean layers is built and has a clean dictionary

Every template of a merged dictionary comes from one side as a whole. That side knew the formats it names, and
the merged dictionary knows the formats of both sides, with whatever templates.
-/

namespace StoryLoom

open LegalPattern (Readable)

namespace Dictionary

/-! ## What is found in a merged dictionary -/

section Merged

variable {a b : Dictionary}

theorem eq_or_eq_of_or {α : Type} {x y : Option α} {c : α} (h : y.or x = some c) :
    x = some c ∨ y = some c := by
  cases y with
  | none => exact .inl h
  | some e => exact .inr h

/-- A type of a merged dictionary comes from one of the two with all its fields. -/
theorem type?_merge {name : String} {entry : TypeEntry}
    (h : (a.merge b).type? name = some entry) : a.type? name = some entry ∨ b.type? name = some entry :=
  eq_or_eq_of_or ((Table.get?_extend a.types b.types name).symm.trans h)

/-- A format of a merged dictionary comes from one of the two. -/
theorem format?_merge {id : String} {template : Template}
    (h : (a.merge b).format? id = some template) :
    a.format? id = some template ∨ b.format? id = some template :=
  eq_or_eq_of_or ((Table.get?_extend a.formats b.formats id).symm.trans h)

/-- The second dictionary has a template for every format of the first. -/
def Knows (d d' : Dictionary) : Prop :=
  ∀ id, d.knowsFormat id = true → d'.knowsFormat id = true

/-- A merged dictionary knows the formats of both sides. -/
theorem knowsFormat_merge {id : String} : (a.merge b).knowsFormat id =
    (b.knowsFormat id || a.knowsFormat id) := by
  have found := Table.get?_extend a.formats b.formats id
  rw [knowsFormat, knowsFormat, knowsFormat, Table.contains, Table.contains, Table.contains]
  rw [← Option.isSome_or, ← found]
  rfl

/-- Laying a dictionary over another takes no format away. -/
theorem knows_merge_lower : Knows a (a.merge b) := by
  intro id known
  rw [knowsFormat_merge, known, Bool.or_true]

/-- The merged dictionary knows the formats of the upper layer. -/
theorem knows_merge_upper : Knows b (a.merge b) := by
  intro id known
  rw [knowsFormat_merge, known, Bool.true_or]

end Merged

section Patterns

variable [PatternLibrary] {d : Dictionary}

/-! ## Validity -/

theorem checkPattern_of_readable {place : PatternPlace} {pattern : String} (h : Readable pattern) :
    checkPattern place (some pattern) = .ok () := by
  rcases h with ⟨p, compiled⟩
  simp only [checkPattern, compiled]

theorem checkPattern_of_forall {place : PatternPlace} {pattern : Option String}
    (h : ∀ source, pattern = some source → Readable source) : checkPattern place pattern = .ok () := by
  cases pattern with
  | none => rfl
  | some source => exact checkPattern_of_readable (h source rfl)

structure PatternsReadable (d : Dictionary) : Prop where
  naming : ∀ pattern, d.namingPattern = some pattern → Readable pattern
  values : ∀ name entry, d.type? name = some entry →
    ∀ pattern, entry.legalValues = some pattern → Readable pattern

/-- A dictionary is valid just if all its patterns can be read. -/
theorem validate_eq_ok_iff : d.validate = .ok () ↔ d.PatternsReadable := by
  constructor
  · intro valid
    rcases readable_of_validate valid with ⟨naming, values⟩
    exact ⟨naming, values⟩
  · rintro ⟨naming, values⟩
    refine Results.bind_eq_ok_iff.2 ⟨(), checkPattern_of_forall naming, Results.forM_eq_ok_iff.2 ?_⟩
    rintro ⟨name, entry⟩ listed
    exact checkPattern_of_forall (values name entry (Table.get?_eq_some_iff.2 listed))

/-- A clean dictionary is a valid one. -/
theorem Clean.patternsReadable (clean : d.Clean) : d.PatternsReadable :=
  ⟨clean.naming, clean.values⟩

/-! ## Findings -/

/-- Where a template is looked up, none counts as an empty one. -/
theorem accepts_getD {template : Option Template} (h : ∀ t, template = some t → d.Accepts t) :
    d.Accepts (template.getD []) := by
  cases template with
  | none => exact accepts_nil
  | some t => exact h t rfl

/-- A clean dictionary accepts each of its templates. -/
theorem Clean.accepts_templates (clean : d.Clean) : ∀ t ∈ d.templates, d.Accepts t.2 := by
  intro t ht
  rcases List.mem_append.1 ht with entries | functions
  · rcases List.mem_append.1 entries with formats | types
    · rcases List.mem_map.1 formats with ⟨id, -, rfl⟩
      exact accepts_getD (clean.formats id)
    · rcases List.mem_map.1 types with ⟨name, -, rfl⟩
      refine accepts_getD ?_
      intro template found
      rcases Option.map_eq_some_iff.1 found with ⟨entry, stored, rfl⟩
      exact clean.types name entry stored
  · simp only [List.mem_cons, List.not_mem_nil, or_false] at functions
    rcases functions with rfl | rfl | rfl
    · exact clean.declaration
    · exact clean.definition
    · exact clean.call

/-- The linter finds nothing just if the dictionary is clean. -/
theorem lint_eq_nil_iff : d.lint = [] ↔ d.Clean := by
  constructor
  · exact clean_of_lint
  · intro clean
    have valid : d.validityFindings = [] := by
      rw [validityFindings, validate_eq_ok_iff.2 clean.patternsReadable]
    refine List.append_eq_nil_iff.2 ⟨valid, List.flatMap_eq_nil_iff.2 ?_⟩
    intro t ht
    exact List.map_eq_nil_iff.2 (clean.accepts_templates t ht)

/-! ## Knowing more formats -/

variable {d' : Dictionary}

/-- A further format takes defects away and adds none. -/
theorem defects_of_knows (more : Knows d d') {f : Fragment} (h : f.defects d.knowsFormat = []) :
    f.defects d'.knowsFormat = [] := by
  cases f with
  | format id onlyFor => exact defectUnless_eq_nil_iff.2 (more id (defectUnless_eq_nil_iff.1 h))
  | _ => exact h

/-! The induction is on the template: a piece with a body is accepted where its body is. -/

mutual

/-- Knowing more formats makes no new defect. -/
theorem innerDefects_of_knows (more : Knows d d') (f : Fragment)
    (h : f.innerDefects d.knowsFormat = []) : f.innerDefects d'.knowsFormat = [] := by
  cases f with
  | literal text => rfl
  | reference label legal => rfl
  | scope label name body => exact accepts_of_knows more body h
  | series source separator filter unique body => exact accepts_of_knows more body h
  | line body => exact accepts_of_knows more body h
  | indent body => exact accepts_of_knows more body h
  | format id onlyFor => rfl
  | conditional condition body => exact accepts_of_knows more body h

/-- What is accepted with some formats is accepted with more of them. -/
theorem accepts_of_knows (more : Knows d d') (template : List Fragment) (h : d.Accepts template) :
    d'.Accepts template := by
  cases template with
  | nil => exact accepts_nil
  | cons f rest =>
    rcases accepts_cons.1 h with ⟨here, inner, later⟩
    exact accepts_cons.2 ⟨defects_of_knows more here, innerDefects_of_knows more f inner,
      accepts_of_knows more rest later⟩

end

/-! ## Layers -/

section Layers

variable {a b : Dictionary}

/-- The patterns of a merged dictionary are patterns of the two. -/
theorem PatternsReadable.merge (ha : a.PatternsReadable) (hb : b.PatternsReadable) :
    (a.merge b).PatternsReadable where
  naming pattern h := by
    rcases eq_or_eq_of_or h with lower | upper
    · exact ha.naming pattern lower
    · exact hb.naming pattern upper
  values name entry h := by
    rcases type?_merge h with lower | upper
    · exact ha.values name entry lower
    · exact hb.values name entry upper

/-- Patterns stay readable through any number of layers. -/
theorem PatternsReadable.mergeAll {layers : List Dictionary} (base : d.PatternsReadable)
    (readable : ∀ layer ∈ layers, layer.PatternsReadable) : (d.mergeAll layers).PatternsReadable := by
  induction layers generalizing d with
  | nil => exact base
  | cons layer rest ih =>
    have first : (d.merge layer).PatternsReadable := base.merge (readable layer List.mem_cons_self)
    exact ih first fun other hother => readable other (List.mem_cons_of_mem layer hother)

/-- The template on top is one of the two. -/
theorem accepts_overTemplate {lower upper : Template} (hl : d.Accepts lower) (hu : d.Accepts upper) :
    d.Accepts (overTemplate lower upper) := by
  cases upper with
  | nil => exact hl
  | cons f rest => exact hu

/-- A clean dictionary over a clean one is clean. -/
theorem Clean.merge (ha : a.Clean) (hb : b.Clean) : (a.merge b).Clean := by
  have readable := ha.patternsReadable.merge hb.patternsReadable
  -- The merged dictionary knows the formats of both, so no template gets a defect by being merged.
  have lower : ∀ {template}, a.Accepts template → (a.merge b).Accepts template :=
    fun h => accepts_of_knows knows_merge_lower _ h
  have upper : ∀ {template}, b.Accepts template → (a.merge b).Accepts template :=
    fun h => accepts_of_knows knows_merge_upper _ h
  refine ⟨readable.naming, readable.values, ?formats, ?types, ?declaration, ?definition, ?call⟩
  case formats =>
    intro id template h
    rcases format?_merge h with below | above
    · exact lower (ha.formats id template below)
    · exact upper (hb.formats id template above)
  case types =>
    intro name entry h
    rcases type?_merge h with below | above
    · exact lower (ha.types name entry below)
    · exact upper (hb.types name entry above)
  case declaration => exact accepts_overTemplate (lower ha.declaration) (upper hb.declaration)
  case definition => exact accepts_overTemplate (lower ha.definition) (upper hb.definition)
  case call => exact accepts_overTemplate (lower ha.call) (upper hb.call)

/-- Clean layers on a clean dictionary leave it clean. -/
theorem Clean.mergeAll {layers : List Dictionary} (base : d.Clean)
    (clean : ∀ layer ∈ layers, layer.Clean) : (d.mergeAll layers).Clean := by
  induction layers generalizing d with
  | nil => exact base
  | cons layer rest ih =>
    have first : (d.merge layer).Clean := base.merge (clean layer List.mem_cons_self)
    exact ih first fun other hother => clean other (List.mem_cons_of_mem layer hother)

/-- Clean layers under a pattern that can be read are clean. -/
theorem Clean.layered {g : GeneratorSettings} {layers : List Dictionary} (base : g.dictionary.Clean)
    (clean : ∀ layer ∈ layers, layer.Clean)
    (pattern : ∀ source, g.namingPattern = some source → Readable source) :
    (g.layered layers).Clean := by
  have merged : (g.dictionary.mergeAll layers).Clean := base.mergeAll clean
  have naming : ∀ source, (g.layered layers).namingPattern = some source → Readable source := by
    intro source h
    rcases eq_or_eq_of_or h with below | above
    · exact merged.naming source below
    · exact pattern source above
  -- The pattern of the settings concerns no template and no format.
  exact { merged with naming := naming }

end Layers

/-- A valid dictionary over a valid one is valid, and one without findings over one without findings has
none. So a generator whose layers have no findings, in whatever order, is built, and its dictionary has no
findings. -/
theorem layering_keeps_clean [DocumentLibrary] :
    (∀ a b : Dictionary, a.validate = .ok () → b.validate = .ok () → (a.merge b).validate = .ok ()) ∧
    (∀ a b : Dictionary, a.lint = [] → b.lint = [] → (a.merge b).lint = []) ∧
    ∀ (g : GeneratorSettings) (files : Filing.Lookup) (lower upper : List Dictionary),
      g.folderLayers files = .ok lower → g.fileLayers files = .ok upper →
      g.dictionary.lint = [] → (∀ layer ∈ lower ++ upper, layer.lint = []) →
      (∀ pattern, g.namingPattern = some pattern → ∃ p, LegalPattern.compile pattern = .ok p) →
      ∃ made, g.build files = .ok made ∧ made.dictionary = g.layered (lower ++ upper) ∧
        made.dictionary.lint = [] := by
  refine ⟨?_, ?_, ?_⟩
  · intro a b ha hb
    exact validate_eq_ok_iff.2 ((validate_eq_ok_iff.1 ha).merge (validate_eq_ok_iff.1 hb))
  · intro a b ha hb
    exact lint_eq_nil_iff.2 ((lint_eq_nil_iff.1 ha).merge (lint_eq_nil_iff.1 hb))
  · intro g files lower upper below above base clean pattern
    have layered : (g.layered (lower ++ upper)).Clean :=
      (lint_eq_nil_iff.1 base).layered (fun layer h => lint_eq_nil_iff.1 (clean layer h)) pattern
    have valid := validate_eq_ok_iff.2 layered.patternsReadable
    have built := build_eq_ok_iff.2 ⟨lower, upper, below, above, valid, rfl⟩
    exact ⟨_, built, rfl, lint_eq_nil_iff.2 layered⟩

end Patterns

theorem exists_layers_of_all [PatternLibrary] {ε : Type} {x : Except ε (List Dictionary)}
    (h : x.toOption.map (fun layers => layers.all fun layer => layer.lint.isEmpty) = some true) :
    ∃ layers, x = .ok layers ∧ ∀ layer ∈ layers, layer.lint = [] := by
  cases x with
  | error e => cases h
  | ok layers =>
    have all : (layers.all fun layer => layer.lint.isEmpty) = true := Option.some.inj h
    exact ⟨layers, rfl, fun layer hl => List.isEmpty_iff.1 (List.all_eq_true.1 all layer hl)⟩

open Libraries

/-- A folder and a file without findings, under a pattern of their own. -/
theorem shelf_clean :
    let g : GeneratorSettings :=
      { folder := some "base", files := ["top.ron"], namingPattern := some "[a-z]+" }
    ∃ lower upper made, g.folderLayers shelf = .ok lower ∧ g.fileLayers shelf = .ok upper ∧
      (∀ layer ∈ lower ++ upper, layer.lint = []) ∧ g.build shelf = .ok made ∧
      made.dictionary.lint = [] := by
  intro g
  have folder : ∃ layers, g.folderLayers shelf = .ok layers ∧ ∀ layer ∈ layers, layer.lint = [] :=
    exists_layers_of_all (by decide +kernel)
  have files : ∃ layers, g.fileLayers shelf = .ok layers ∧ ∀ layer ∈ layers, layer.lint = [] :=
    exists_layers_of_all (by decide +kernel)
  rcases folder with ⟨lower, below, cleanLower⟩
  rcases files with ⟨upper, above, cleanUpper⟩
  have clean : ∀ layer ∈ lower ++ upper, layer.lint = [] := by
    intro layer h
    rcases List.mem_append.1 h with inFolder | inFile
    · exact cleanLower layer inFolder
    · exact cleanUpper layer inFile
  have base : g.dictionary.lint = [] := by decide +kernel
  have readable : Readable "[a-z]+" := Results.exists_of_isOk (by decide +kernel)
  have pattern : ∀ source, g.namingPattern = some source → ∃ p, LegalPattern.compile source = .ok p := by
    intro source same
    cases same
    exact readable
  rcases layering_keeps_clean.2.2 g shelf lower upper below above base clean pattern with
    ⟨made, built, -, none⟩
  exact ⟨lower, upper, made, below, above, clean, built, none⟩

end Dictionary
end StoryLoom
