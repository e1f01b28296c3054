import StoryLoom.Generation.Resolve

/-!
# Grounded — what the failure of a lookup can be

- `GenerationError.OfLookup` : a failure that neither is about names nor is for want of room
- `GenerationError.OfFocus`  : such a failure that is not about what surrounds a context either
- `Plain`, `Inward` : a lookup that fails in these ways only
- `Grounded` : a lookup that does not fail for want of room
- `inward_scope`, `inward_series`, `inward_condition` : a context asks for its surroundings by two keys only
- `plain_enterScope`, `plain_seriesElements`, `plain_conditionHolds` : what the pieces of a template look up
  is plain

What a piece looks up ends on every story, however its objects are linked. So only the resolution of other
templates can come to the bound on their depth, and only a request for a name can run out of names.
-/

namespace StoryLoom

/-! ## Failures -/

/-- A cause that a lookup can have: not that names run out, nor that templates call each other without
end. -/
@[simp] def Problem.OfLookup : Problem → Prop
  | .namesExhausted _ _ => False
  | .endless => False
  | _ => True

/-- A cause that lies in what surrounds a context: there is nothing around it, or no story point. -/
@[simp] def Problem.OfSurroundings : Problem → Prop
  | .noOwner _ => True
  | .missing what _ => what = "enclosing story point"
  | _ => False

/-- A failure of a lookup. The fragment it notes, if any, is the one of the lookup itself. -/
def GenerationError.OfLookup (noted : Option String) (e : GenerationError) : Prop :=
  (e.fragment = none ∨ e.fragment = noted) ∧ e.problem.OfLookup

/-- A failure of a lookup that lies in the object asked, and not in what surrounds it. -/
def GenerationError.OfFocus (noted : Option String) (e : GenerationError) : Prop :=
  e.OfLookup noted ∧ ¬ e.problem.OfSurroundings

/-- A lookup that fails as a lookup does. -/
def Plain (noted : Option String) {α : Type} (x : Except GenerationError α) : Prop :=
  ∀ e, x = .error e → e.OfLookup noted

/-- A lookup that fails for the object asked only. -/
def Inward (noted : Option String) {α : Type} (x : Except GenerationError α) : Prop :=
  ∀ e, x = .error e → e.OfFocus noted

/-- A lookup that does not fail for want of room. -/
def Grounded {α : Type} (x : Except GenerationError α) : Prop :=
  ∀ e, x = .error e → e.problem ≠ .endless

variable {noted : Option String}

namespace GenerationError

@[simp] theorem problem_unknownFormat (id : String) : (unknownFormat id).problem = .unknownFormat id :=
  rfl

/-- A lookup error notes at most the fragment at hand. -/
@[simp] theorem ofLookup_iff {problem : Problem} {fragment : Option String} :
    OfLookup noted ⟨problem, fragment⟩ ↔ (fragment = none ∨ fragment = noted) ∧ problem.OfLookup :=
  Iff.rfl

/-- A failure for the object asked is a lookup that says nothing about the surroundings. -/
@[simp] theorem ofFocus_iff {problem : Problem} {fragment : Option String} :
    OfFocus noted ⟨problem, fragment⟩ ↔
      ((fragment = none ∨ fragment = noted) ∧ problem.OfLookup) ∧ ¬ problem.OfSurroundings :=
  Iff.rfl

@[simp] theorem ofFocus_dangling (element : Element) : OfFocus noted (.dangling element) :=
  ⟨⟨.inl rfl, trivial⟩, id⟩

@[simp] theorem ofLookup_unknownFormat (id : String) : OfLookup noted (.unknownFormat id) :=
  ⟨.inl rfl, trivial⟩

@[simp] theorem ofFocus_unknownFormat (id : String) : OfFocus noted (.unknownFormat id) :=
  ⟨ofLookup_unknownFormat id, not_false⟩

/-- Looking something up never runs out of depth. -/
theorem OfLookup.not_endless {e : GenerationError} (h : e.OfLookup noted) : e.problem ≠ .endless := by
  intro endless
  have cause := h.2
  rw [endless] at cause
  exact cause

/-- Nor does it run out of names. -/
theorem OfLookup.not_exhausted {e : GenerationError} (h : e.OfLookup noted) (cause : Namer.Exhausted)
    (context : Option String) : e.problem ≠ .namesExhausted cause context := by
  intro exhausted
  have cause := h.2
  rw [exhausted] at cause
  exact cause

/-- Without a fragment at hand none is noted. -/
theorem OfLookup.fragment_eq_none {e : GenerationError} (h : e.OfLookup none) : e.fragment = none :=
  h.1.elim id id

end GenerationError

namespace Plain

variable {α β : Type} {x : Except GenerationError α}

@[simp] theorem ok (a : α) : Plain noted (.ok a) := by
  intro e h
  cases h

@[simp] theorem pure (a : α) : Plain noted (Pure.pure a) :=
  ok a

@[simp] theorem error_iff {e : GenerationError} :
    Plain noted (.error e : Except GenerationError α) ↔ e.OfLookup noted := by
  constructor
  · intro h
    exact h e rfl
  · rintro h _ ⟨⟩
    exact h

@[simp] theorem bind {f : α → Except GenerationError β} (hx : Plain noted x)
    (hf : ∀ a, Plain noted (f a)) : Plain noted (x >>= f) := by
  cases x with
  | ok a => exact hf a
  | error e => exact error_iff.2 (hx e rfl)

@[simp] theorem map (f : α → β) (hx : Plain noted x) : Plain noted (x.map f) := by
  cases x with
  | ok a => exact ok (f a)
  | error e => exact error_iff.2 (hx e rfl)

theorem grounded (hx : Plain none x) : Grounded x :=
  fun e failed => (hx e failed).not_endless

end Plain

namespace Inward

variable {α β : Type} {x : Except GenerationError α}

theorem plain (hx : Inward noted x) : Plain noted x :=
  fun e failed => (hx e failed).1

@[simp] theorem ok (a : α) : Inward noted (.ok a) := by
  intro e h
  cases h

@[simp] theorem pure (a : α) : Inward noted (Pure.pure a) :=
  ok a

@[simp] theorem error_iff {e : GenerationError} :
    Inward noted (.error e : Except GenerationError α) ↔ e.OfFocus noted := by
  constructor
  · intro h
    exact h e rfl
  · rintro h _ ⟨⟩
    exact h

@[simp] theorem bind {f : α → Except GenerationError β} (hx : Inward noted x)
    (hf : ∀ a, Inward noted (f a)) : Inward noted (x >>= f) := by
  cases x with
  | ok a => exact hf a
  | error e => exact error_iff.2 (hx e rfl)

@[simp] theorem map (f : α → β) (hx : Inward noted x) : Inward noted (x.map f) := by
  cases x with
  | ok a => exact ok (f a)
  | error e => exact error_iff.2 (hx e rfl)

@[simp] theorem fmap (f : α → β) (hx : Inward noted x) : Inward noted (f <$> x) :=
  hx.map f

end Inward

/-! ## Near a context -/

namespace Context

variable {s : Setting} (c : Context)

@[simp] theorem problem_missing (what : String) :
    (c.missing s what).problem = .missing what (c.describe s) :=
  rfl

@[simp] theorem problem_unsupported (accessor : String) :
    (c.unsupported s accessor).problem = .unsupported accessor (c.describe s) :=
  rfl

@[simp] theorem ofLookup_missing (what : String) : (c.missing s what).OfLookup noted :=
  ⟨.inl rfl, trivial⟩

@[simp] theorem ofLookup_unsupported (accessor : String) :
    (c.unsupported s accessor).OfLookup noted :=
  ⟨.inl rfl, trivial⟩

@[simp] theorem ofFocus_missing {what : String} :
    (c.missing s what).OfFocus noted ↔ what ≠ "enclosing story point" :=
  ⟨fun h => h.2, fun h => ⟨⟨.inl rfl, trivial⟩, h⟩⟩

@[simp] theorem ofFocus_unsupported (accessor : String) :
    (c.unsupported s accessor).OfFocus noted :=
  ⟨⟨.inl rfl, trivial⟩, id⟩

/-- An id that is not stored is reported as dangling. -/
@[simp] theorem inward_focusOn (element : Element) : Inward noted (c.focusOn s element) := by
  cases element with
  | component id | codeBlock id | line id =>
    simp only [focusOn]
    split <;> simp
  | binding id =>
    simp only [focusOn]
    split
    · simp
    · split
      · simp
      · split <;> simp
  | text t => simp [focusOn]

/-- Entering an element fails only when the element dangles. -/
@[simp] theorem inward_enter (element : Element) : Inward noted (c.enter s element) :=
  (c.inward_focusOn element).map c.inside

theorem plain_enter (element : Element) : Plain noted (c.enter s element) :=
  (c.inward_enter element).plain

theorem plain_enterComponent (id : ComponentId) : Plain noted (c.enterComponent s id) :=
  c.plain_enter (.component id)

/-- The owner may be missing, and that is all. -/
@[simp] theorem plain_owner : Plain noted (c.owner s) := by
  unfold owner
  split <;> simp

/-- The enclosing story point may be missing, and that is all. -/
@[simp] theorem plain_storyPoint : Plain noted (c.storyPoint s) := by
  unfold Context.storyPoint
  split <;> simp

@[simp] theorem inward_mainBlock (script : ScriptIt) : Inward noted (c.mainBlock s script) := by
  unfold mainBlock
  split <;> simp

theorem plain_mainBlock (script : ScriptIt) : Plain noted (c.mainBlock s script) :=
  (c.inward_mainBlock script).plain

/-! ## Scopes -/

/-- A name in quotes is not what is missing where no story point is around. -/
theorem quoted_ne_storyPoint (text : String) : text ++ "'" ≠ "enclosing story point" := by
  intro same
  -- The last characters differ.
  have last := congrArg (fun t => t.toList.getLast?) same
  simp at last

/-- No scope is labelled like the complaint about the surroundings. -/
@[simp] theorem scopeLabel_ne_storyPoint (key : ScopeKey) : key.label ≠ "enclosing story point" := by
  cases key <;> decide

@[simp] theorem inward_demand {what : String} (other : what ≠ "enclosing story point")
    (id : Option ComponentId) : Inward noted (c.demand s what id) := by
  cases id <;> simp [demand, other]

@[simp] theorem inward_findNamed (key : ScopeKey) (name : Option String)
    (candidates : List ComponentId) : Inward noted (c.findNamed s key name candidates) := by
  cases name with
  | none =>
    have other : key.label ++ " name" ≠ "enclosing story point" := by cases key <;> decide
    simp [findNamed, other]
  | some name => exact c.inward_demand (quoted_ne_storyPoint _) _

@[simp] theorem inward_slotParameters (script : ScriptIt) :
    Inward noted (c.slotParameters s script) := by
  simp [slotParameters]

@[simp] theorem inward_cause : Inward noted (c.cause s) := by
  unfold cause
  split <;> simp

@[simp] theorem inward_causeChild (key : ScopeKey) (place : Nat) :
    Inward noted (c.causeChild s key place) := by
  simp [causeChild]

@[simp] theorem inward_party (key : ScopeKey) (task : Task) (place : Nat) :
    Inward noted (c.party s key task place) := by
  have other : key.label ++ " of a collaborative task" ≠ "enclosing story point" := by
    cases key <;> decide
  unfold party
  split <;> simp [other]

@[simp] theorem inward_blockSubject (b : CodeBlock) : Inward noted (c.blockSubject s b) := by
  simp [blockSubject]

@[simp] theorem inward_scriptScope (key : ScopeKey) (name : Option String) (k : Component)
    (script : ScriptIt) : Inward noted (c.scriptScope s key name k script) := by
  unfold scriptScope
  split <;> simp

@[simp] theorem inward_componentScope (key : ScopeKey) (name : Option String)
    (k : Component) : Inward noted (c.componentScope s key name k) := by
  unfold componentScope
  split
  · simp
  · split <;> simp
  · split
    · simp
    · split <;> simp
    · simp
  · split <;> simp
  · simp

@[simp] theorem inward_blockScope (key : ScopeKey) (name : Option String) (b : CodeBlock) :
    Inward noted (c.blockScope s key name b) := by
  unfold blockScope
  split <;> simp

/-- Two scopes only turn to what surrounds a context. -/
theorem inward_scope {key : ScopeKey} (notOwner : key ≠ .owner) (notPoint : key ≠ .storyPoint)
    (name : Option String) : Inward noted (c.scope s key name) := by
  unfold scope
  split
  · exact absurd rfl notOwner
  · simp
  · exact absurd rfl notPoint
  · -- The remaining keys are answered by the focus.
    split
    · simp
    · simp
    · split <;> simp
    · split <;> simp
    · split <;> simp
    · simp

/-- A scope fails on a lookup, the ones that look around included. -/
@[simp] theorem plain_scope (key : ScopeKey) (name : Option String) :
    Plain noted (c.scope s key name) := by
  by_cases owner : key = .owner
  · rw [owner]
    exact c.plain_owner
  · by_cases point : key = .storyPoint
    · rw [point]
      exact c.plain_storyPoint.bind fun k => .pure _
    · exact (c.inward_scope owner point name).plain

/-! ## Series and facts -/

@[simp] theorem inward_fileSeries (key : SeriesKey) (root : Component) :
    Inward noted (c.fileSeries s key root) := by
  unfold fileSeries
  split
  · simp
  · simp
  · split <;> simp

@[simp] theorem inward_identicalCauses (cause : Component) (script : ScriptIt) :
    Inward noted (c.identicalCauses s cause script) := by
  refine (c.inward_mainBlock script).bind fun main => ?_
  split <;> simp

@[simp] theorem inward_scriptSeries (key : SeriesKey) (k : Component) (script : ScriptIt) :
    Inward noted (c.scriptSeries s key k script) := by
  unfold scriptSeries
  split
  case h_10 => split <;> simp
  all_goals simp

@[simp] theorem inward_componentSeries (key : SeriesKey) (k : Component) :
    Inward noted (c.componentSeries s key k) := by
  unfold componentSeries
  split
  case h_6 => split <;> simp
  all_goals simp

@[simp] theorem inward_blockSeries (key : SeriesKey) (b : CodeBlock) :
    Inward noted (c.blockSeries s key b) := by
  unfold blockSeries
  split <;> simp

/-- A series lists what the focus holds and looks no further. -/
@[simp] theorem inward_series (key : SeriesKey) : Inward noted (c.series s key) := by
  unfold series
  split
  · simp
  · simp
  · simp
  · split <;> simp
  · split <;> simp
  · split <;> simp
  · simp

/-- A condition tests the focus and looks no further. -/
@[simp] theorem inward_condition (key : ConditionKey) : Inward noted (c.condition s key) := by
  unfold condition
  split
  · split <;> simp
  · simp
  · simp
  · simp
  · simp

/-! ## Types and numbers -/

@[simp] theorem inward_codeSymbol (type : Option String) : Inward noted (c.codeSymbol s type) := by
  cases type with
  | none => simp [codeSymbol]
  | some type =>
    simp only [codeSymbol]
    split <;> simp

theorem plain_codeSymbol (type : Option String) : Plain noted (c.codeSymbol s type) :=
  (c.inward_codeSymbol type).plain

@[simp] theorem inward_lowerChance (k : Component) : Inward noted (c.lowerChance s k) := by
  unfold lowerChance
  split <;> simp

theorem plain_lowerChance (k : Component) : Plain noted (c.lowerChance s k) :=
  (c.inward_lowerChance k).plain

end Context

/-! ## Scopes, conditions and compared texts -/

section Pieces

variable (s : Setting) (c : Context)

theorem plain_enterScope (label : String) (name : Option String) :
    Plain none (enterScope s c label name) := by
  unfold enterScope
  split
  · simp
  · exact (c.plain_scope _ name).bind fun element => c.plain_enter element

theorem inward_conditionHolds (condition : String) : Inward none (conditionHolds s c condition) := by
  unfold conditionHolds
  split <;> simp

theorem plain_conditionHolds (condition : String) : Plain none (conditionHolds s c condition) :=
  (inward_conditionHolds s c condition).plain

theorem grounded_conditionHolds (condition : String) : Grounded (conditionHolds s c condition) :=
  (plain_conditionHolds s c condition).grounded

end Pieces

@[simp] theorem inward_comparedTexts (m : StoryModel) (bySlot : Bool) (element : Element) :
    Inward noted (comparedTexts m bySlot element) := by
  cases element with
  | text t => simp [comparedTexts]
  | component id | binding id | codeBlock id | line id =>
    simp only [comparedTexts]
    split <;> simp

/-! ## Patterns -/

variable [PatternLibrary]

/-- An unreadable pattern is a failure of its own. -/
theorem Setting.inward_legal (s : Setting) (source : Option String) :
    Inward noted (s.legal source) := by
  unfold Setting.legal
  dsimp only
  split <;> simp

theorem Setting.plain_legal (s : Setting) (source : Option String) : Plain noted (s.legal source) :=
  (s.inward_legal source).plain

theorem Context.inward_resourceText (s : Setting) (type : Option String) (r : Resource) :
    Inward noted (resourceText s type r) := by
  unfold resourceText
  split
  · simp
  · split
    · simp
    · split
      · simp
      · next e failed => exact Inward.error_iff.2 (s.inward_legal _ e failed)

theorem Context.plain_resourceText (s : Setting) (type : Option String) (r : Resource) :
    Plain noted (resourceText s type r) :=
  (inward_resourceText s type r).plain

/-! ## Filters and series -/

/-- Filtering fails where the text compared with the pattern is missing. -/
@[simp] theorem inward_keepMatching (m : StoryModel) (bySlot : Bool) (p : LegalPattern)
    (elements : List Element) : Inward noted (keepMatching m bySlot p elements) := by
  induction elements with
  | nil => simp [keepMatching]
  | cons e rest ih => simp [keepMatching, ih]

/-- A filter with an unreadable pattern notes the fragment that it is given. -/
@[simp] theorem SeriesFilter.inward_apply (filter : SeriesFilter) (m : StoryModel)
    (elements : List Element) (fragment : String) :
    Inward (some fragment) (filter.apply m elements fragment) := by
  unfold SeriesFilter.apply
  split
  · simp
  · split <;> simp

section Pieces

variable (s : Setting) (c : Context)

/-- A series fragment fails on its source, its filter or the texts compared. -/
theorem inward_seriesElements (source : String) (filter : SeriesFilter) (unique : Bool)
    (fragment : String) :
    Inward (some fragment) (seriesElements s c source filter unique fragment) := by
  unfold seriesElements
  split <;> simp

theorem plain_seriesElements (source : String) (filter : SeriesFilter) (unique : Bool)
    (fragment : String) :
    Plain (some fragment) (seriesElements s c source filter unique fragment) :=
  (inward_seriesElements s c source filter unique fragment).plain

/-- However a series fails, it is not for want of room. -/
theorem grounded_seriesElements (source : String) (filter : SeriesFilter) (unique : Bool)
    (fragment : String) : Grounded (seriesElements s c source filter unique fragment) :=
  fun e failed => (plain_seriesElements s c source filter unique fragment e failed).not_endless

end Pieces
end StoryLoom
