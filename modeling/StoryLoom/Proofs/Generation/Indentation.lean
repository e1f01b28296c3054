import StoryLoom.Generation.Resolve

/-!
# Indentation — contexts that differ in the text in front of lines

- `Context.withIndent` : a context with another indentation
- `enter_withIndent`   : entering an object hands the indentation on
- `name_withIndent`    : names do not depend on it
- `data_withIndent`    : values depend on it where templates are handed out only
- `conditionHolds_withIndent` : what holds does not depend on it

Scopes, series, facts and messages read the focus of a context and the foci around it, so that they are
the same by definition.
-/

namespace StoryLoom

/-- The same context with another indentation. -/
def Context.withIndent (indent : String) (c : Context) : Context :=
  { c with indent := indent }

/-- The same template, resolved with another indentation. -/
def Part.withIndent (indent : String) (p : Part) : Part :=
  { p with context := p.context.map (Context.withIndent indent) }

/-- The same answer, its templates to be resolved with another indentation. -/
def Answer.withIndent (indent : String) : Answer → Answer
  | .text t => .text t
  | .parts ps => .parts (ps.map (Part.withIndent indent))

namespace Context

variable {s : Setting} (c : Context) (i : String)

theorem withIndent_indent : c.withIndent c.indent = c := rfl

theorem indented_withIndent :
    (c.withIndent i).indented s = c.withIndent (i ++ s.dictionary.indent) := rfl

/-- Entering an element keeps the indentation. -/
theorem enter_withIndent (element : Element) :
    (c.withIndent i).enter s element = (c.enter s element).map (withIndent i) := by
  change (c.focusOn s element).map (c.withIndent i).inside = _
  rw [enter]
  cases c.focusOn s element <;> rfl

/-- So does entering a scope. -/
theorem enterScope_withIndent (label : String) (name : Option String) :
    enterScope s (c.withIndent i) label name = (enterScope s c label name).map (withIndent i) := by
  have turned : ∀ key, (c.withIndent i).scope s key name = c.scope s key name := fun _ => rfl
  simp only [enterScope, turned]
  split
  · rfl
  · next key _ =>
    cases c.scope s key name with
    | error e => rfl
    | ok element => exact c.enter_withIndent i element

/-- Which conditions hold does not depend on the indentation. -/
theorem conditionHolds_withIndent (condition : String) :
    conditionHolds s (c.withIndent i) condition = conditionHolds s c condition := rfl

/-! ## Answers -/

theorem map_answerOf (t : Except GenerationError String) :
    Answer.withIndent i <$> answerOf t = answerOf t := by
  cases t <;> rfl

theorem map_answerName (x : Naming String) :
    Answer.withIndent i <$> answerName x = answerName x := by
  rw [answerName, map_bind]
  rfl

theorem lineData_withIndent (key : DataKey) (l : DialogueLine) :
    (c.withIndent i).lineData s key l = Answer.withIndent i <$> c.lineData s key l := by
  cases key <;> try rfl
  case formattedValue =>
    simp only [lineData]
    split <;> rfl
  case type => exact (map_answerOf i _).symm

theorem textData_withIndent (key : DataKey) (t : String) :
    (c.withIndent i).textData s key t = Answer.withIndent i <$> c.textData s key t := by
  cases key <;> rfl

theorem fileData_withIndent (key : DataKey) :
    (c.withIndent i).fileData s key = Answer.withIndent i <$> c.fileData s key := by
  cases key <;> try rfl
  case subject =>
    simp only [fileData]
    split <;> rfl

/-! ## Names -/

variable [PatternLibrary]

/-- A name does not depend on how far a context is indented. -/
theorem nameOfComponent_withIndent (id : ComponentId) (legal : Option String) :
    (c.withIndent i).nameOfComponent s id legal = c.nameOfComponent s id legal := by
  rw [nameOfComponent, nameOfComponent, enterComponent, enterComponent, enter_withIndent]
  cases c.enter s (.component id) <;> rfl

theorem nameOfLine_withIndent (id : LineId) (legal : Option String) :
    (c.withIndent i).nameOfLine s id legal = c.nameOfLine s id legal := by
  rw [nameOfLine, nameOfLine, enter_withIndent]
  cases c.enter s (.line id) <;> rfl

theorem bindingName_withIndent (view : BindingView) (legal : Option String) :
    (c.withIndent i).bindingName s view legal = c.bindingName s view legal := by
  cases view with
  | unbound => rfl
  | resource r => rfl
  | reference target => exact c.nameOfComponent_withIndent i target.id legal
  | function script => exact c.nameOfComponent_withIndent i script.id legal
  | storyPoint target => exact c.nameOfComponent_withIndent i target.id legal
  | uninitialized target => exact c.nameOfComponent_withIndent i target.id legal
  | dialogue line => exact c.nameOfLine_withIndent i line.id legal

/-- The name of an object does not depend on the indentation. -/
theorem name_withIndent (legal : Option String) : (c.withIndent i).name s legal = c.name s legal := by
  obtain ⟨focus, outer, indent⟩ := c
  cases focus with
  | file root => rfl
  | component k => rfl
  | block b => rfl
  | binding knowIt view => exact bindingName_withIndent _ i view legal
  | line l => rfl
  | text t => rfl

/-! ## Values -/

theorem nameAnswer_withIndent (id : ComponentId) (legal : Option String) :
    answerName ((c.withIndent i).nameOfComponent s id legal) =
      Answer.withIndent i <$> answerName (c.nameOfComponent s id legal) := by
  rw [map_answerName, nameOfComponent_withIndent]

/-- An answer differs in the indentation of its templates only. -/
theorem value_withIndent (knowIt : Component) (view : BindingView) (legal : Option String) :
    (c.withIndent i).value s knowIt view legal =
      Answer.withIndent i <$> c.value s knowIt view legal := by
  cases view with
  | unbound => rfl
  | resource r => exact (map_answerOf i _).symm
  | reference target => exact c.nameAnswer_withIndent i target.id legal
  | function script =>
    simp only [value, callOf, enterComponent, enter_withIndent]
    split
    · rfl
    · cases c.enter s (.component script.id) <;> rfl
  | storyPoint target => exact c.nameAnswer_withIndent i target.id legal
  | uninitialized target => exact c.nameAnswer_withIndent i target.id legal
  | dialogue line => rfl

/-- The data of a binding differs in nothing else. -/
theorem bindingData_withIndent (key : DataKey) (legal : Option String) (knowIt : Component)
    (view : BindingView) :
    (c.withIndent i).bindingData s key legal knowIt view =
      Answer.withIndent i <$> c.bindingData s key legal knowIt view := by
  cases key <;> try rfl
  case value => exact c.value_withIndent i knowIt view legal
  case formattedValue =>
    simp only [bindingData, formattedValue]
    split
    · exact c.value_withIndent i knowIt view legal
    · rfl
  case type => exact (map_answerOf i _).symm
  case templateId =>
    cases view with
    | resource r =>
      simp only [bindingData]
      split <;> rfl
    | _ => rfl
  case uniqueId => cases view <;> rfl

theorem knowItData_withIndent (key : DataKey) (legal : Option String) (knowIt : Component) :
    (c.withIndent i).knowItData s key legal knowIt =
      Answer.withIndent i <$> c.knowItData s key legal knowIt := by
  rw [knowItData, knowItData, enter_withIndent]
  cases c.enter s (.binding knowIt.id) with
  | error e => rfl
  | ok inner =>
    obtain ⟨focus, outer, indent⟩ := inner
    cases focus with
    | binding k view => exact bindingData_withIndent _ i key legal k view
    | _ => rfl

theorem componentValue_withIndent (key : DataKey) (legal : Option String) (k : Component) :
    (c.withIndent i).componentValue s key legal k =
      Answer.withIndent i <$> c.componentValue s key legal k := by
  obtain ⟨id, text, owner, kind⟩ := k
  cases kind <;> try rfl
  case storyPoint => exact (map_answerName i _).symm
  case knowIt => exact c.knowItData_withIndent i key legal _

theorem subjectValue_withIndent (b : CodeBlock) (legal : Option String) :
    (c.withIndent i).subjectValue s b legal =
      Answer.withIndent i <$> c.subjectValue s b legal := by
  simp only [subjectValue, enterComponent, enter_withIndent]
  cases s.model.subjectOf? b with
  | none => rfl
  | some id =>
    dsimp only
    cases c.enter s (.component id) with
    | error e => rfl
    | ok inner =>
      obtain ⟨focus, outer, indent⟩ := inner
      cases focus with
      | component k => exact componentValue_withIndent _ i .value legal k
      | _ => rfl

/-- A script's data differs in nothing else. -/
theorem scriptData_withIndent (key : DataKey) (legal : Option String) (script : ScriptIt) :
    (c.withIndent i).scriptData s key legal script =
      Answer.withIndent i <$> c.scriptData s key legal script := by
  have main : (c.withIndent i).mainBlock s script = c.mainBlock s script := rfl
  cases key <;> try rfl
  case type => exact (map_answerOf i _).symm
  case slot => exact (map_answerOf i _).symm
  case code =>
    -- Each block is entered on its own, and fails only when its turn comes.
    have entered : (c.withIndent i).scriptCode s script =
        (c.scriptCode s script).withIndent i := by
      simp only [scriptCode, Answer.withIndent, List.map_map]
      refine congrArg Answer.parts (List.map_congr_left ?_)
      intro b _
      exact congrArg (fun inner => Part.mk inner b.code) (c.enter_withIndent i (.codeBlock b.id))
    exact congrArg pure entered
  case condition =>
    simp only [scriptData, main]
    cases c.mainBlock s script with
    | error e => rfl
    | ok b =>
      simp only [Naming.ofExcept, pure_bind]
      split <;> rfl
  case subject =>
    simp only [scriptData, main]
    cases c.mainBlock s script with
    | error e => rfl
    | ok b => exact c.subjectValue_withIndent i b legal
  case controlItFormat =>
    simp only [scriptData]
    split
    · split
      · rfl
      · split <;> rfl
    · rfl

/-- Nor does a component's. -/
theorem componentData_withIndent (key : DataKey) (legal : Option String) (k : Component) :
    (c.withIndent i).componentData s key legal k =
      Answer.withIndent i <$> c.componentData s key legal k := by
  have ofValue := fun key k => c.componentValue_withIndent (s := s) i key legal k
  obtain ⟨id, text, owner, kind⟩ := k
  cases kind with
  | storyPoint p =>
    cases key <;> try rfl
    case value => exact ofValue .value ⟨id, text, owner, .storyPoint p⟩
    case formattedValue => exact ofValue .formattedValue ⟨id, text, owner, .storyPoint p⟩
  | scriptIt script => exact c.scriptData_withIndent i key legal script
  | knowIt k =>
    cases key <;> try rfl
    case type => exact (map_answerOf i _).symm
    case value => exact ofValue .value ⟨id, text, owner, .knowIt k⟩
    case formattedValue => exact ofValue .formattedValue ⟨id, text, owner, .knowIt k⟩
    case templateId => exact ofValue .templateId ⟨id, text, owner, .knowIt k⟩
    case uniqueId => exact ofValue .uniqueId ⟨id, text, owner, .knowIt k⟩
  | askIt ask =>
    cases key <;> try rfl
    case condition =>
      simp only [componentData]
      split
      · exact c.nameAnswer_withIndent i _ legal
      · rfl
  | container children => rfl
  | note => rfl
  | task t =>
    cases key <;> try rfl
    case taskProbabilityLowerBound => exact (map_answerOf i _).symm
    case taskProbabilityUpperBound => exact (map_answerOf i _).symm
  | behaviour children => rfl

/-- Nor does a code block's. -/
theorem blockData_withIndent (key : DataKey) (legal : Option String) (b : CodeBlock) :
    (c.withIndent i).blockData s key legal b =
      Answer.withIndent i <$> c.blockData s key legal b := by
  cases key <;> try rfl
  case type => exact (map_answerOf i _).symm
  case subject => exact c.subjectValue_withIndent i b legal

/-- Asking for a value takes the same course under every indentation, which is only handed on to the
templates of the answer. -/
theorem data_withIndent (key : DataKey) (legal : Option String) :
    (c.withIndent i).data s key legal = Answer.withIndent i <$> c.data s key legal := by
  unfold data
  split
  · rw [map_answerName, name_withIndent]
  · rfl
  · have place : (c.withIndent i).index? s = c.index? s := rfl
    rw [place]
    split <;> rfl
  · have around : (c.withIndent i).storyPoint s = c.storyPoint s := rfl
    rw [around]
    cases c.storyPoint s with
    | error e => rfl
    | ok point => exact c.nameAnswer_withIndent i point.id legal
  · obtain ⟨focus, outer, indent⟩ := c
    cases focus with
    | file root => exact fileData_withIndent _ i key
    | component k => exact componentData_withIndent _ i key legal k
    | block b => exact blockData_withIndent _ i key legal b
    | binding knowIt view => exact bindingData_withIndent _ i key legal knowIt view
    | line l => exact lineData_withIndent _ i key l
    | text t => exact textData_withIndent _ i key t

/-! ## Series -/

/-- What a series lists is not a matter of indentation. -/
theorem seriesElements_withIndent (source : String) (filter : SeriesFilter) (unique : Bool)
    (fragment : String) :
    seriesElements s (c.withIndent i) source filter unique fragment =
      seriesElements s c source filter unique fragment := by
  have listed : ∀ key, (c.withIndent i).series s key = c.series s key := fun _ => rfl
  unfold seriesElements
  split
  · rfl
  · rw [listed]

end Context
end StoryLoom
