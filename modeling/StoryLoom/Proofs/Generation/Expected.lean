import StoryLoom.Generation.Resolve
import StoryLoom.Proofs.Dictionary.Clean
import StoryLoom.Proofs.Generation.Reach

/-!
# Expected — the failures that a checked template may still have

- `KnownLabel`, `Problem.Expected` : what a failure may say
- `Setting.Checked`   : dictionary, story and naming pattern are in order
- `Setting.Meets`     : a result with a property, or an expected failure
- `meets_enterScope`, `meets_seriesElements`, `meets_conditionHolds` : what pieces look up meets this

The lookups of a piece give no name, so that a plain result is all that has to be spoken of here.
-/

namespace StoryLoom

/-! ## What a failure may say -/

/-- A label of the vocabulary, written as its key writes it. -/
def KnownLabel (label : String) : Prop :=
  (∃ key : DataKey, label = key.label) ∨ (∃ key : ScopeKey, label = key.label) ∨
    (∃ key : SeriesKey, label = key.label) ∨ ∃ key : ConditionKey, label = key.label

/-- Some script of the story is rendered by a format that the dictionary lacks. -/
def Setting.LacksControlFormat (s : Setting) (id : String) : Prop :=
  s.dictionary.format? id = none ∧ ∃ number k script, s.model.component? number = some k ∧
    k.script? = some script ∧ script.controlFormat = some id

/-- The causes of failure that are left where dictionary and story are in order. -/
def Problem.Expected (s : Setting) : Problem → Prop
  | .missing what _ => what ≠ "argument name" ∧ what ≠ "slotParameter name"
  | .unsupported accessor _ => KnownLabel accessor
  | .unknownSeries _ _ => False
  | .namesExhausted _ _ => True
  | .badFilter _ _ => False
  | .badLegality _ _ => False
  | .noOwner _ => True
  | .unknownFormat id =>
    (id = "function call" ∧ s.dictionary.function.call = []) ∨ s.LacksControlFormat id
  | .unknownType _ _ => True
  | .dangling _ => True
  | .endless => True

/-- Dictionary, story and naming pattern are in order. -/
structure Setting.Checked [PatternLibrary] (s : Setting) : Prop where
  clean : s.dictionary.Clean
  blocks : ∀ id b, s.model.codeBlock? id = some b → s.dictionary.Accepts b.code
  naming : LegalPattern.Readable s.namingPattern

/-- A result with a property, or an expected failure. -/
structure Setting.Meets (s : Setting) {α : Type} (good : α → Prop)
    (x : Except GenerationError α) : Prop where
  ok : ∀ a, x = .ok a → good a
  error : ∀ e, x = .error e → e.problem.Expected s

namespace Setting.Meets

variable {s : Setting} {α β : Type} {good : α → Prop} {x : Except GenerationError α}

theorem of_ok {a : α} (h : good a) : s.Meets good (.ok a) where
  ok := by
    intro b hb
    cases hb
    exact h
  error := by
    intro e he
    cases he

theorem of_error {e : GenerationError} (h : e.problem.Expected s) : s.Meets good (.error e) where
  ok := by
    intro a ha
    cases ha
  error := by
    intro e' he
    cases he
    exact h

/-- The second step is only asked about values the first can give. -/
theorem bind {good' : β → Prop} {f : α → Except GenerationError β} (hx : s.Meets good x)
    (hf : ∀ a, good a → s.Meets good' (f a)) : s.Meets good' (x >>= f) := by
  cases x with
  | ok a => exact hf a (hx.ok a rfl)
  | error e => exact of_error (hx.error e rfl)

theorem map {f : α → β} {good' : β → Prop} (hx : s.Meets good x)
    (hf : ∀ a, good a → good' (f a)) : s.Meets good' (x.map f) := by
  cases x with
  | ok a => exact of_ok (hf a (hx.ok a rfl))
  | error e => exact of_error (hx.error e rfl)

end Setting.Meets

namespace Context

variable {s : Setting} {c : Context} {α : Type} {good : α → Prop}

/-! ## Failures of a context -/

theorem meets_missing (what : String)
    (h : what ≠ "argument name" ∧ what ≠ "slotParameter name") :
    s.Meets good (.error (c.missing s what)) :=
  .of_error h

/-- A text in quotes is no name of a scope. -/
theorem quoted_ne (text : String) :
    text ++ "'" ≠ "argument name" ∧ text ++ "'" ≠ "slotParameter name" := by
  constructor <;>
  · intro h
    -- The last characters differ.
    have last := congrArg (fun t => t.toList.getLast?) h
    simp at last

/-- No scope is labelled like one of the two names that lint asks for. -/
theorem scopeLabel_ne (key : ScopeKey) :
    key.label ≠ "argument name" ∧ key.label ≠ "slotParameter name" := by
  cases key <;> decide

theorem meets_unsupported_scope (key : ScopeKey) :
    s.Meets good (.error (c.unsupported s key.label)) :=
  .of_error (.inr (.inl ⟨key, rfl⟩))

theorem meets_unsupported_series (key : SeriesKey) :
    s.Meets good (.error (c.unsupported s key.label)) :=
  .of_error (.inr (.inr (.inl ⟨key, rfl⟩)))

theorem meets_unsupported_condition (key : ConditionKey) :
    s.Meets good (.error (c.unsupported s key.label)) :=
  .of_error (.inr (.inr (.inr ⟨key, rfl⟩)))

/-! ## Entering -/

theorem meets_focusOn (c : Context) (element : Element) :
    s.Meets (fun _ => True) (c.focusOn s element) := by
  cases element with
  | component id | codeBlock id | line id =>
    simp only [focusOn]
    split
    · exact .of_ok trivial
    · exact .of_error trivial
  | binding id =>
    simp only [focusOn]
    split
    · exact .of_error trivial
    · split
      · exact meets_missing "knowit" (by decide)
      · split
        · exact .of_ok trivial
        · exact .of_error trivial
  | text t => exact .of_ok trivial

theorem meets_enter (made : c.Reachable s) (element : Element) :
    s.Meets (Context.Reachable s) (c.enter s element) where
  ok _ entered := .enter made entered
  error := ((meets_focusOn c element).map (fun _ _ => trivial) : s.Meets (fun _ => True) _).error

theorem meets_mainBlock (c : Context) (script : ScriptIt) :
    s.Meets (fun _ => True) (c.mainBlock s script) := by
  unfold mainBlock
  split
  · exact .of_ok trivial
  · exact meets_missing "main code block" (by decide)

theorem meets_storyPoint (c : Context) : s.Meets (fun _ => True) (c.storyPoint s) := by
  unfold Context.storyPoint
  split
  · exact .of_ok trivial
  · exact meets_missing "enclosing story point" (by decide)

/-! ## Scopes -/

/-- A missing part is among the failures expected. -/
theorem meets_demand (what : String) (h : what ≠ "argument name" ∧ what ≠ "slotParameter name")
    (id : Option ComponentId) : s.Meets (fun _ => True) (c.demand s what id) := by
  cases id with
  | some id => exact .of_ok trivial
  | none => exact meets_missing what h

/-- With a name given, the search can only find nothing. -/
theorem meets_findNamed (key : ScopeKey) {name : Option String} (named : name.isSome = true)
    (candidates : List ComponentId) :
    s.Meets (fun _ => True) (c.findNamed s key name candidates) := by
  cases name with
  | some name => exact meets_demand _ (quoted_ne _) _
  | none => cases named

theorem meets_slotParameters (script : ScriptIt) :
    s.Meets (fun _ => True) (c.slotParameters s script) :=
  (meets_mainBlock c script).bind fun _ _ => .of_ok trivial

theorem meets_cause : s.Meets (fun _ => True) (c.cause s) := by
  unfold cause
  split
  · exact .of_ok trivial
  · exact meets_missing "cause" (by decide)

theorem meets_causeChild (key : ScopeKey) (place : Nat) :
    s.Meets (fun _ => True) (c.causeChild s key place) :=
  meets_cause.bind fun _ _ => meets_demand _ (scopeLabel_ne key) _

theorem meets_party (key : ScopeKey) (task : Task) (place : Nat) :
    s.Meets (fun _ => True) (c.party s key task place) := by
  unfold party
  split
  · exact meets_demand _ (scopeLabel_ne key) _
  · exact meets_missing _ (by cases key <;> decide)

theorem meets_blockSubject (b : CodeBlock) : s.Meets (fun _ => True) (c.blockSubject s b) :=
  meets_demand _ (by decide) _

theorem meets_scriptScope {key : ScopeKey} {name : Option String}
    (named : key.takesName = true → name.isSome = true) (k : Component) (script : ScriptIt) :
    s.Meets (fun _ => True) (c.scriptScope s key name k script) := by
  unfold scriptScope
  split
  · exact meets_findNamed _ (named rfl) _
  · exact (meets_slotParameters script).bind fun _ _ => meets_findNamed _ (named rfl) _
  · exact (meets_mainBlock c script).bind fun b _ => meets_blockSubject b
  · exact (meets_mainBlock c script).bind fun _ _ => .of_ok trivial
  · exact meets_cause.bind fun _ _ => .of_ok trivial
  · exact meets_causeChild _ 0
  · exact meets_causeChild _ 1
  · exact meets_causeChild _ 2
  · exact meets_unsupported_scope key

theorem meets_componentScope {key : ScopeKey} {name : Option String}
    (named : key.takesName = true → name.isSome = true) (k : Component) :
    s.Meets (fun _ => True) (c.componentScope s key name k) := by
  unfold componentScope
  split
  case h_1 script _ => exact meets_scriptScope named k script
  case h_2 ask _ =>
    split
    · exact meets_demand _ (by decide) _
    · exact meets_demand _ (by decide) _
    · exact meets_demand _ (by decide) _
    · exact meets_unsupported_scope key
  case h_3 knowIt _ =>
    split
    · exact .of_ok trivial
    · split
      · exact .of_ok trivial
      · exact meets_missing "dialogue binding" (by decide)
    · exact meets_unsupported_scope key
  case h_4 task _ =>
    split
    · exact meets_party _ task 0
    · exact meets_party _ task 1
    · exact meets_demand _ (by decide) _
    · exact meets_unsupported_scope key
  case h_5 => exact meets_unsupported_scope key

theorem meets_blockScope {key : ScopeKey} {name : Option String}
    (named : key.takesName = true → name.isSome = true) (b : CodeBlock) :
    s.Meets (fun _ => True) (c.blockScope s key name b) := by
  unfold blockScope
  split
  · exact meets_findNamed _ (named rfl) _
  · exact meets_blockSubject b
  · exact meets_cause.bind fun _ _ => .of_ok trivial
  · exact meets_causeChild _ 0
  · exact meets_causeChild _ 1
  · exact meets_causeChild _ 2
  · exact meets_unsupported_scope key

theorem meets_owner : s.Meets (fun _ => True) (c.owner s) := by
  unfold owner
  split
  · exact .of_ok trivial
  · exact .of_error trivial

/-- A scope that is given the name it takes fails as expected. -/
theorem meets_scope {key : ScopeKey} {name : Option String}
    (named : key.takesName = true → name.isSome = true) :
    s.Meets (fun _ => True) (c.scope s key name) := by
  unfold scope
  split
  · exact meets_owner
  · exact .of_ok trivial
  · exact (meets_storyPoint c).bind fun _ _ => .of_ok trivial
  · split
    · exact meets_componentScope named _
    · exact meets_blockScope named _
    · split
      · exact meets_findNamed _ (named rfl) _
      · exact meets_unsupported_scope key
    · split
      · exact .of_ok trivial
      · exact meets_unsupported_scope key
    · split
      · exact meets_demand _ (by decide) _
      · exact meets_demand _ (by decide) _
      · exact meets_unsupported_scope key
    · exact meets_unsupported_scope key

/-! ## Series -/

theorem meets_placeSeries (key : SeriesKey) :
    s.Meets (fun _ => True) (match placeSeries? s key with
      | some elements => .ok elements
      | none => .error (c.unsupported s key.label)) := by
  split
  · exact .of_ok trivial
  · exact meets_unsupported_series key

theorem meets_fileSeries (key : SeriesKey) (root : Component) :
    s.Meets (fun _ => True) (c.fileSeries s key root) := by
  unfold fileSeries
  split
  · exact .of_ok trivial
  · exact .of_ok trivial
  · exact meets_placeSeries key

theorem meets_identicalCauses (cause : Component) (script : ScriptIt) :
    s.Meets (fun _ => True) (c.identicalCauses s cause script) := by
  refine (meets_mainBlock c script).bind fun main _ => ?_
  split
  · exact .of_ok trivial
  · exact .of_ok trivial

theorem meets_scriptSeries (key : SeriesKey) (k : Component) (script : ScriptIt) :
    s.Meets (fun _ => True) (c.scriptSeries s key k script) := by
  unfold scriptSeries
  split
  · exact .of_ok trivial
  · exact .of_ok trivial
  · exact (meets_slotParameters script).bind fun _ _ => .of_ok trivial
  · exact (meets_slotParameters script).bind fun _ _ => .of_ok trivial
  · exact .of_ok trivial
  · exact (meets_mainBlock c script).bind fun _ _ => .of_ok trivial
  · exact .of_ok trivial
  · exact .of_ok trivial
  · exact .of_ok trivial
  · split
    · exact meets_identicalCauses k script
    · exact meets_unsupported_series _
  · exact meets_unsupported_series key

theorem meets_componentSeries (key : SeriesKey) (k : Component) :
    s.Meets (fun _ => True) (c.componentSeries s key k) := by
  unfold componentSeries
  split
  case h_1 => exact meets_scriptSeries _ k _
  case h_6 => exact meets_placeSeries _
  case h_16 => exact meets_unsupported_series _
  all_goals exact .of_ok trivial

theorem meets_blockSeries (key : SeriesKey) (b : CodeBlock) :
    s.Meets (fun _ => True) (c.blockSeries s key b) := by
  unfold blockSeries
  split
  case h_6 => exact meets_unsupported_series key
  all_goals exact .of_ok trivial

/-- Every series a lint-clean template can ask for fails as expected. -/
theorem meets_series (key : SeriesKey) : s.Meets (fun _ => True) (c.series s key) := by
  unfold series
  split
  · exact meets_fileSeries key _
  · exact meets_componentSeries key _
  · exact meets_blockSeries key _
  · split
    · exact .of_ok trivial
    · exact .of_ok trivial
    · exact meets_unsupported_series key
  · split
    · exact .of_ok trivial
    · exact meets_unsupported_series key
  · split
    · exact .of_ok trivial
    · exact .of_ok trivial
    · exact meets_unsupported_series key
  · exact meets_unsupported_series key

/-- Every condition does. -/
theorem meets_condition (key : ConditionKey) : s.Meets (fun _ => True) (c.condition s key) := by
  unfold condition
  split
  · split
    · exact .of_ok trivial
    · exact meets_unsupported_condition _
  · exact .of_ok trivial
  · exact .of_ok trivial
  · exact .of_ok trivial
  · exact meets_unsupported_condition _

end Context

/-! ## What pieces look up -/

section Pieces

variable {s : Setting} {c : Context}

theorem meets_comparedTexts (m : StoryModel) (bySlot : Bool) (element : Element) :
    s.Meets (fun _ => True) (comparedTexts m bySlot element) := by
  cases element with
  | text t => exact .of_ok trivial
  | component id | binding id | codeBlock id | line id =>
    simp only [comparedTexts]
    split
    · exact .of_ok trivial
    · exact .of_error trivial

variable [PatternLibrary]

theorem meets_keepMatching (m : StoryModel) (bySlot : Bool) (p : LegalPattern)
    (elements : List Element) :
    s.Meets (fun _ => True) (keepMatching m bySlot p elements) := by
  induction elements with
  | nil => exact .of_ok trivial
  | cons e rest ih =>
    refine (meets_comparedTexts m bySlot e).bind fun texts _ => ?_
    exact ih.bind fun kept _ => .of_ok trivial

/-- The pattern of an active filter was read when the dictionary was linted. -/
theorem meets_filter {filter : SeriesFilter}
    (readable : filter.criterion ≠ .none → LegalPattern.Readable filter.pattern)
    (elements : List Element) (fragment : String) :
    s.Meets (fun _ => True) (filter.apply s.model elements fragment) := by
  unfold SeriesFilter.apply
  split
  · exact .of_ok trivial
  · next filters =>
    obtain ⟨p, hp⟩ := readable filters
    rw [hp]
    exact meets_keepMatching s.model _ p elements

/-- A scope fragment without defects names what its scope needs. -/
theorem meets_enterScope {known : String → Bool} {label : String} {name : Option String}
    {body : Template} (accepted : (Fragment.scope label name body).defects known = [])
    (made : c.Reachable s) : s.Meets (Context.Reachable s) (enterScope s c label name) := by
  obtain ⟨key, hkey, named⟩ := Dictionary.scope_of_defects accepted
  simp only [enterScope, hkey]
  exact (Context.meets_scope named).bind fun element _ => Context.meets_enter made element

/-- A series fragment without defects has a source and a readable filter. -/
theorem meets_seriesElements {known : String → Bool} {source separator : String}
    {filter : SeriesFilter} {unique : Bool} {body : Template}
    (accepted : (Fragment.series source separator filter unique body).defects known = [])
    (fragment : String) :
    s.Meets (fun _ => True) (seriesElements s c source filter unique fragment) := by
  obtain ⟨⟨key, hkey⟩, readable⟩ := Dictionary.series_of_defects accepted
  simp only [seriesElements, hkey]
  exact (Context.meets_series key).bind fun elements _ => meets_filter readable _ fragment

/-- A conditional fragment without defects asks a condition that exists. -/
theorem meets_conditionHolds {known : String → Bool} {condition : String} {body : Template}
    (accepted : (Fragment.conditional condition body).defects known = []) :
    s.Meets (fun _ => True) (conditionHolds s c condition) := by
  obtain ⟨parsed, hparsed⟩ := Dictionary.condition_of_defects accepted
  simp only [conditionHolds, hparsed]
  exact (Context.meets_condition parsed.key).bind fun fact _ => .of_ok trivial

end Pieces

end StoryLoom
