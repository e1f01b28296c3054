import StoryLoom.Proofs.Generation.Repetition
import StoryLoom.Proofs.Generation.Expected
import StoryLoom.Proofs.Pattern.DefaultNaming

/-!
# Linted — how a template that the linter accepts can still fail

- `Naming.Meets`   : computations with a property of their results, or an expected failure
- `Answer.Checked` : answers made from accepted templates
- `meets_data`, `meets_resolveWith`, `meets_resolveUpTo` : values and templates meet this
- `linted_failures_are_expected` : the failures left in a pass over a dictionary without findings

A template leads to others: to formats, to the code of blocks and to the templates of functions and
types. All of these were examined too. So the argument goes along resolution, and the bodies of pieces
and the templates inside each other are accepted wherever it arrives.
-/

namespace StoryLoom

/-- A computation whose result has a property, or which fails as expected. -/
structure Naming.Meets (s : Setting) {α : Type} (good : α → Prop) (x : Naming α) : Prop where
  ok : ∀ n a next, x n = .ok a next → good a
  error : ∀ n e next, x n = .error e next → e.problem.Expected s

namespace Naming.Meets

variable {s : Setting} {α β : Type} {good : α → Prop} {x : Naming α}

theorem pure {a : α} (h : good a) : Meets s good (pure a) where
  ok := by
    intro n b next hb
    cases hb
    exact h
  error := by
    intro n e next he
    cases he

theorem throw {e : GenerationError} (h : e.problem.Expected s) : Meets s good (throw e) where
  ok := by
    intro n a next ha
    cases ha
  error := by
    intro n e' next he
    cases he
    exact h

theorem bind {good' : β → Prop} {f : α → Naming β} (hx : Meets s good x)
    (hf : ∀ a, good a → Meets s good' (f a)) : Meets s good' (x >>= f) where
  ok := by
    intro n b next h
    obtain ⟨a, middle, first, second⟩ := bind_eq_ok_iff.1 h
    exact (hf a (hx.ok n a middle first)).ok middle b next second
  error := by
    intro n e next h
    rcases bind_eq_error_iff.1 h with first | ⟨a, middle, first, second⟩
    · exact hx.error n e next first
    · exact (hf a (hx.ok n a middle first)).error middle e next second

theorem mapError {f : GenerationError → GenerationError} (hx : Meets s good x)
    (hf : ∀ e, e.problem.Expected s → (f e).problem.Expected s) : Meets s good (mapError f x) where
  ok := by
    intro n a next h
    exact hx.ok n a next (mapError_eq_ok_iff.1 h)
  error := by
    intro n e next h
    obtain ⟨cause, failed, rfl⟩ := mapError_eq_error_iff.1 h
    exact hf cause (hx.error n cause next failed)

theorem ofExcept {y : Except GenerationError α} (hy : s.Meets good y) :
    Meets s good (ofExcept y) := by
  cases y with
  | ok a => exact pure (hy.ok a rfl)
  | error e => exact throw (hy.error e rfl)

/-- A list of steps fails as expected if each of its steps does. -/
theorem mapM {f : α → Naming β} (hf : ∀ a, Meets s (fun _ => True) (f a)) (l : List α) :
    Meets s (fun _ => True) (l.mapM f) := by
  induction l with
  | nil => exact pure trivial
  | cons a rest ih =>
    rw [List.mapM_cons]
    exact (hf a).bind fun b _ => ih.bind fun bs _ => pure trivial

end Naming.Meets

/-! ## Failures -/

namespace Context

open Naming

variable {s : Setting} {c : Context} {α : Type} {good : α → Prop}

/-- Noting the context keeps an expected failure expected. -/
theorem expected_inContext (context : String) (e : GenerationError)
    (h : e.problem.Expected s) : (e.inContext context).problem.Expected s := by
  unfold GenerationError.inContext
  split
  · trivial
  · exact h

theorem meets_throw_missing (what : String)
    (h : what ≠ "argument name" ∧ what ≠ "slotParameter name") :
    Meets s good (throw (c.missing s what)) :=
  .throw h

theorem meets_refuse (key : DataKey) : Meets s good (throw (c.unsupported s key.label)) :=
  .throw (.inl ⟨key, rfl⟩)

theorem meets_codeSymbol (c : Context) (type : Option String) :
    s.Meets (fun _ => True) (c.codeSymbol s type) := by
  unfold codeSymbol
  split
  · exact meets_missing "type" (by decide)
  · split
    · exact .of_ok trivial
    · exact .of_error trivial

theorem meets_lowerChance (c : Context) (k : Component) :
    s.Meets (fun _ => True) (c.lowerChance s k) := by
  unfold lowerChance
  split
  · exact .of_ok trivial
  · exact meets_missing "enclosing task series" (by decide)

end Context

section Library

variable [PatternLibrary]

/-! ## Names -/

/-- A pattern that replaces the naming pattern can be read. -/
def OverrideReadable (legal : Option String) : Prop :=
  ∀ pattern, legal = some pattern → LegalPattern.Readable pattern

namespace Context

open Naming

variable {s : Setting} {c : Context} {legal : Option String}

/-- Every pattern that a name may have to match can be read. -/
theorem legal_eq_ok (checked : s.Checked) (readable : OverrideReadable legal) :
    ∃ p, s.legal legal = .ok p := by
  have source : LegalPattern.Readable (legal.getD s.namingPattern) := by
    cases legal with
    | none => exact checked.naming
    | some pattern => exact readable pattern rfl
  obtain ⟨p, hp⟩ := source
  refine ⟨p, ?_⟩
  rw [Setting.legal, hp]

/-- With a readable pattern a name can only run out. -/
theorem meets_nameOf (checked : s.Checked) (readable : OverrideReadable legal)
    (identity : Identity) (text : String) (key : Option AliasKey) :
    Meets s (fun _ => True) (s.nameOf identity text key legal) where
  ok _ _ _ _ := trivial
  error := by
    intro n e next h
    have outcome := Setting.outcome_nameOf s identity text key legal n
    rw [h] at outcome
    cases outcome with
    | unreadable refused =>
      obtain ⟨p, hp⟩ := legal_eq_ok checked readable
      rw [hp] at refused
      cases refused
    | exhausted cause => trivial

theorem meets_nameHere (checked : s.Checked) (readable : OverrideReadable legal) (c : Context)
    (identity : Identity) (text : String) (key : Option AliasKey) :
    Meets s (fun _ => True) (c.nameHere s identity text key legal) :=
  (meets_nameOf checked readable identity text key).mapError (expected_inContext _)

theorem meets_componentName (checked : s.Checked) (readable : OverrideReadable legal) (c : Context)
    (k : Component) : Meets s (fun _ => True) (c.componentName s k legal) := by
  unfold componentName
  split
  · next script _ =>
    refine (Meets.ofExcept (meets_mainBlock c script)).bind fun b _ => ?_
    exact meets_nameHere checked readable c _ _ none
  · exact meets_nameHere checked readable c _ _ _

theorem meets_nameOfComponent (checked : s.Checked) (readable : OverrideReadable legal)
    (made : c.Reachable s) (id : ComponentId) :
    Meets s (fun _ => True) (c.nameOfComponent s id legal) := by
  refine (Meets.ofExcept (meets_enter made (.component id))).bind fun inner _ => ?_
  split
  · exact meets_componentName checked readable inner _
  · exact meets_refuse .name

theorem meets_nameOfLine (checked : s.Checked) (readable : OverrideReadable legal)
    (made : c.Reachable s) (id : LineId) :
    Meets s (fun _ => True) (c.nameOfLine s id legal) := by
  refine (Meets.ofExcept (meets_enter made (.line id))).bind fun inner _ => ?_
  split
  · exact meets_nameHere checked readable inner _ _ none
  · exact meets_refuse .name

theorem meets_bindingName (checked : s.Checked) (readable : OverrideReadable legal)
    (made : c.Reachable s) (view : BindingView) :
    Meets s (fun _ => True) (c.bindingName s view legal) := by
  cases view with
  | unbound => exact meets_throw_missing "binding" (by decide)
  | resource r => exact .pure trivial
  | reference k | function k | storyPoint k | uninitialized k =>
    exact meets_nameOfComponent checked readable made k.id
  | dialogue l => exact meets_nameOfLine checked readable made l.id

/-- The name of the focus can only run out, or be missing. -/
theorem meets_name (checked : s.Checked) (readable : OverrideReadable legal)
    (made : c.Reachable s) : Meets s (fun _ => True) (c.name s legal) := by
  unfold name
  split
  · exact meets_componentName checked readable c _
  · exact meets_componentName checked readable c _
  · exact meets_nameHere checked readable c _ _ none
  · exact meets_bindingName checked readable made _
  · exact meets_nameHere checked readable c _ _ none
  · exact .pure trivial

end Context

/-! ## Values -/

/-- A template that was examined, with a context that can be made. -/
def Part.Checked (s : Setting) (p : Part) : Prop :=
  s.Meets (Context.Reachable s) p.context ∧ s.dictionary.Accepts p.template

/-- An answer made from templates that were examined. -/
def Answer.Checked (s : Setting) : Answer → Prop
  | .text _ => True
  | .parts ps => ∀ p ∈ ps, p.Checked s

namespace Context

open Naming

variable {s : Setting} {c : Context} {legal : Option String}

/-- A template of the dictionary was linted, so it may stand in an answer. -/
theorem checked_part (made : c.Reachable s) {template : Template}
    (accepted : s.dictionary.Accepts template) : (c.part template).Checked s := by
  intro p hp
  rw [List.mem_singleton.1 hp]
  exact ⟨.of_ok made, accepted⟩

theorem meets_answer (t : String) : Meets s (Answer.Checked s) (answer t) :=
  .pure trivial

theorem meets_answerOf {t : Except GenerationError String} (h : s.Meets (fun _ => True) t) :
    Meets s (Answer.Checked s) (answerOf t) :=
  (Meets.ofExcept h).bind fun _ _ => .pure trivial

theorem meets_answerName {x : Naming String} (h : Meets s (fun _ => True) x) :
    Meets s (Answer.Checked s) (answerName x) :=
  h.bind fun _ _ => .pure trivial

/-- The format of a type was examined; none is the empty template. -/
theorem accepts_formatOf (checked : s.Checked) (type : Option String) :
    s.dictionary.Accepts (formatOf s type) := by
  unfold formatOf
  cases htype : type.bind s.dictionary.type? with
  | none => exact Dictionary.accepts_nil
  | some entry =>
    obtain ⟨name, -, hentry⟩ := Option.bind_eq_some_iff.1 htype
    exact checked.clean.types name entry hentry

/-- The text of a resource is checked against a pattern that was read before. -/
theorem meets_resourceText (checked : s.Checked) (type : Option String) (r : Resource) :
    s.Meets (fun _ => True) (resourceText s type r) := by
  unfold resourceText
  cases htype : type.bind s.dictionary.type? with
  | none => exact .of_ok trivial
  | some entry =>
    obtain ⟨name, -, hentry⟩ := Option.bind_eq_some_iff.1 htype
    cases hvalues : entry.legalValues with
    | none =>
      simp only [hvalues]
      exact .of_ok trivial
    | some pattern =>
      have readable : OverrideReadable (some pattern) := by
        intro pattern' same
        cases same
        exact checked.clean.values name entry hentry _ hvalues
      obtain ⟨p, hp⟩ := legal_eq_ok checked readable
      simp only [hvalues, hp]
      exact .of_ok trivial

/-- The call of a script is text the dictionary formats. -/
theorem meets_callOf (checked : s.Checked) (made : c.Reachable s) (script : Component) :
    Meets s (Answer.Checked s) (c.callOf s script) := by
  unfold callOf
  split
  -- An empty template has no defect, so this failure is left.
  · next empty => exact .throw (.inl ⟨rfl, List.isEmpty_iff.1 empty⟩)
  · refine (Meets.ofExcept (meets_enter made (.component script.id))).bind fun inner made' => ?_
    exact .pure (checked_part made' checked.clean.call)

/-- A value is a text, a name or a call, each checked. -/
theorem meets_value (checked : s.Checked) (readable : OverrideReadable legal)
    (made : c.Reachable s) (knowIt : Component) (view : BindingView) :
    Meets s (Answer.Checked s) (c.value s knowIt view legal) := by
  cases view with
  | unbound => exact meets_throw_missing "binding" (by decide)
  | resource r => exact meets_answerOf (meets_resourceText checked _ r)
  | reference k | storyPoint k | uninitialized k =>
    exact meets_answerName (meets_nameOfComponent checked readable made k.id)
  | function script => exact meets_callOf checked made script
  | dialogue l => exact meets_answer _

theorem meets_formattedValue (checked : s.Checked) (readable : OverrideReadable legal)
    (made : c.Reachable s) (knowIt : Component) (view : BindingView) :
    Meets s (Answer.Checked s) (c.formattedValue s knowIt view legal) := by
  unfold formattedValue
  dsimp only
  split
  · exact meets_value checked readable made knowIt view
  · exact .pure (checked_part made (accepts_formatOf checked _))

/-- The data of a binding fails as expected. -/
theorem meets_bindingData (checked : s.Checked) (readable : OverrideReadable legal)
    (made : c.Reachable s) (key : DataKey) (knowIt : Component) (view : BindingView) :
    Meets s (Answer.Checked s) (c.bindingData s key legal knowIt view) := by
  unfold bindingData
  split
  · exact meets_value checked readable made knowIt view
  · exact meets_formattedValue checked readable made knowIt view
  · exact meets_answerOf (meets_codeSymbol c _)
  · split
    · exact meets_answer _
    · exact meets_throw_missing "template id" (by decide)
  · exact meets_answer _
  · exact meets_answer _
  · exact meets_refuse _

theorem meets_knowItData (checked : s.Checked) (readable : OverrideReadable legal)
    (made : c.Reachable s) (key : DataKey) (knowIt : Component) :
    Meets s (Answer.Checked s) (c.knowItData s key legal knowIt) := by
  refine (Meets.ofExcept (meets_enter made (.binding knowIt.id))).bind fun inner made' => ?_
  split
  · exact meets_bindingData checked readable made' key _ _
  · exact meets_refuse key

theorem meets_componentValue (checked : s.Checked) (readable : OverrideReadable legal)
    (made : c.Reachable s) (key : DataKey) (k : Component) :
    Meets s (Answer.Checked s) (c.componentValue s key legal k) := by
  unfold componentValue
  split
  · exact meets_answerName (meets_componentName checked readable c k)
  · exact meets_knowItData checked readable made key k
  · exact meets_refuse key

theorem meets_subjectValue (checked : s.Checked) (readable : OverrideReadable legal)
    (made : c.Reachable s) (b : CodeBlock) :
    Meets s (Answer.Checked s) (c.subjectValue s b legal) := by
  unfold subjectValue
  split
  · exact meets_throw_missing "subject" (by decide)
  · next id _ =>
    refine (Meets.ofExcept (meets_enter made (.component id))).bind fun inner made' => ?_
    split
    · exact meets_componentValue checked readable made' .value _
    · exact meets_refuse .value

theorem meets_fileData (key : DataKey) : Meets s (Answer.Checked s) (c.fileData s key) := by
  unfold fileData
  split
  · exact meets_answer _
  · split
    · exact meets_answer _
    · exact meets_throw_missing "subject" (by decide)
  · exact meets_refuse key

theorem meets_taskData (key : DataKey) (k : Component) (task : Task) :
    Meets s (Answer.Checked s) (c.taskData s key k task) := by
  unfold taskData
  split
  · exact meets_answer _
  · exact meets_answer _
  · exact meets_answerOf ((meets_lowerChance c k).map fun _ _ => trivial)
  · exact meets_answerOf ((meets_lowerChance c k).map fun _ _ => trivial)
  · exact meets_refuse key

/-- The blocks of a script that add code were examined. -/
theorem checked_scriptCode (checked : s.Checked) (made : c.Reachable s) (script : ScriptIt) :
    (c.scriptCode s script).Checked s := by
  intro p hp
  obtain ⟨b, hb, rfl⟩ := List.mem_map.1 hp
  have listed : b ∈ s.model.blocksOf script := (List.mem_filter.1 hb).1
  obtain ⟨id, -, hid⟩ := List.mem_filterMap.1 listed
  exact ⟨meets_enter made (.codeBlock b.id), checked.blocks id b hid⟩

/-- The values of a script of the story. -/
theorem meets_scriptData (checked : s.Checked) (readable : OverrideReadable legal)
    (made : c.Reachable s) (key : DataKey) {k : Component} {script : ScriptIt}
    (stored : ∃ id, s.model.component? id = some k) (hscript : k.script? = some script) :
    Meets s (Answer.Checked s) (c.scriptData s key legal script) := by
  have main := meets_mainBlock (s := s) c script
  unfold scriptData
  split
  · exact meets_answerOf (main.bind fun b _ => meets_codeSymbol c _)
  · exact .pure (checked_scriptCode checked made script)
  · refine (Meets.ofExcept main).bind fun b _ => ?_
    split
    · exact meets_answer _
    · exact meets_throw_missing _ (quoted_ne _)
  · exact (Meets.ofExcept main).bind fun b _ => meets_subjectValue checked readable made b
  · exact meets_answerOf (main.bind fun b _ => .of_ok trivial)
  · split
    · split
      · exact meets_throw_missing "control format" (by decide)
      · next id hformat =>
        split
        · next template htemplate =>
          exact .pure (checked_part made (checked.clean.formats id template htemplate))
        · next absent =>
          -- The linter does not see the formats that scripts name.
          obtain ⟨number, hk⟩ := stored
          exact .throw (.inr ⟨absent, number, k, script, hk, hscript, hformat⟩)
    · exact meets_refuse _
  · exact .pure (checked_part made checked.clean.declaration)
  · exact .pure (checked_part made checked.clean.definition)
  · exact meets_refuse key

/-- The data of a stored component does. -/
theorem meets_componentData (checked : s.Checked) (readable : OverrideReadable legal)
    (made : c.Reachable s) (key : DataKey) {k : Component}
    (stored : ∃ id, s.model.component? id = some k) :
    Meets s (Answer.Checked s) (c.componentData s key legal k) := by
  unfold componentData
  split
  · exact meets_componentValue checked readable made _ k
  · exact meets_componentValue checked readable made _ k
  · exact meets_answer _
  · exact meets_answer _
  · exact meets_taskData _ k _
  · next script hkind =>
    exact meets_scriptData checked readable made _ stored (by simp [Component.script?, hkind])
  · exact meets_answerOf (meets_codeSymbol c _)
  · exact meets_componentValue checked readable made _ k
  · exact meets_componentValue checked readable made _ k
  · exact meets_componentValue checked readable made _ k
  · exact meets_componentValue checked readable made _ k
  · split
    · exact meets_answerName (meets_nameOfComponent checked readable made _)
    · exact meets_throw_missing "condition" (by decide)
  · exact meets_refuse _

/-- The code of a stored block was checked like a template. -/
theorem meets_blockData (checked : s.Checked) (readable : OverrideReadable legal)
    (made : c.Reachable s) (key : DataKey) {b : CodeBlock}
    (stored : ∃ id, s.model.codeBlock? id = some b) :
    Meets s (Answer.Checked s) (c.blockData s key legal b) := by
  unfold blockData
  split
  · exact meets_answerOf (meets_codeSymbol c _)
  · obtain ⟨id, hb⟩ := stored
    exact .pure (checked_part made (checked.blocks id b hb))
  · exact meets_answer _
  · exact meets_subjectValue checked readable made b
  · exact meets_refuse key

theorem meets_lineData (checked : s.Checked) (made : c.Reachable s) (key : DataKey)
    (l : DialogueLine) : Meets s (Answer.Checked s) (c.lineData s key l) := by
  unfold lineData
  split
  · exact meets_answer _
  · exact meets_answer _
  · dsimp only
    split
    · exact meets_answer _
    · exact .pure (checked_part made (accepts_formatOf checked _))
  · exact meets_answerOf (meets_codeSymbol c _)
  · exact meets_answer _
  · exact meets_answer _
  · exact meets_answer _
  · exact meets_refuse key

theorem meets_textData (key : DataKey) (t : String) :
    Meets s (Answer.Checked s) (c.textData s key t) := by
  unfold textData
  split
  · exact meets_answer _
  · exact meets_answer _
  · exact meets_refuse key

/-- Whatever is asked in a reachable context fails as expected. -/
theorem meets_data (checked : s.Checked) (readable : OverrideReadable legal)
    (made : c.Reachable s) (key : DataKey) :
    Meets s (Answer.Checked s) (c.data s key legal) := by
  have stored := made.focus_stored
  unfold data
  split
  · exact meets_answerName (meets_name checked readable made)
  · exact meets_answer _
  · split
    · exact meets_answer _
    · exact meets_refuse .index
  · refine (Meets.ofExcept (meets_storyPoint c)).bind fun point _ => ?_
    exact meets_answerName (meets_nameOfComponent checked readable made _)
  · split
    · exact meets_fileData key
    · next k focus =>
      rw [focus] at stored
      exact meets_componentData checked readable made key stored
    · next b focus =>
      rw [focus] at stored
      exact meets_blockData checked readable made key stored
    · exact meets_bindingData checked readable made key _ _
    · exact meets_lineData checked made key _
    · exact meets_textData key _

end Context

/-! ## Templates -/

/-- Templates that were examined are resolved with expected failures only. -/
def Expand.Meets (s : Setting) (expand : Expand) : Prop :=
  ∀ c template, c.Reachable s → s.dictionary.Accepts template →
    Naming.Meets s (fun _ => True) (expand c template)

section Templates

open Naming

variable {s : Setting} {expand : Expand} {c : Context}

theorem meets_resolveParts (hexpand : expand.Meets s) {parts : List Part}
    (checked : ∀ p ∈ parts, p.Checked s) :
    Meets s (fun _ => True) (resolveParts expand parts) := by
  induction parts with
  | nil => exact .pure trivial
  | cons p rest ih =>
    obtain ⟨made, accepted⟩ := checked p List.mem_cons_self
    have others := ih fun q hq => checked q (List.mem_cons_of_mem p hq)
    refine (Meets.ofExcept made).bind fun c hc => ?_
    refine (hexpand c p.template hc accepted).bind fun text _ => ?_
    exact others.bind fun _ _ => .pure trivial

/-- An answer of checked parts resolves, or fails as expected. -/
theorem meets_resolveAnswer (hexpand : expand.Meets s) {a : Answer} (checked : a.Checked s) :
    Meets s (fun _ => True) (resolveAnswer expand a) := by
  cases a with
  | text t => exact .pure trivial
  | parts ps => exact meets_resolveParts hexpand checked

/-- A reference that lint accepts asks for data that exists. -/
theorem meets_resolveReference (checked : s.Checked) (hexpand : expand.Meets s)
    (made : c.Reachable s) {known : String → Bool} {label : String} {legal : Option String}
    (accepted : (Fragment.reference label legal).defects known = []) :
    Meets s (fun _ => True) (resolveReference s expand c label legal) := by
  obtain ⟨⟨key, hkey⟩, readable⟩ := Dictionary.reference_of_defects accepted
  simp only [resolveReference, hkey]
  exact (Context.meets_data checked readable made key).bind fun a ha => meets_resolveAnswer hexpand ha

/-- A format that lint accepts is one the dictionary knows. -/
theorem meets_resolveFormat (checked : s.Checked) (hexpand : expand.Meets s)
    (made : c.Reachable s) {id : String} {onlyFor : Option FormatTarget}
    (accepted : (Fragment.format id onlyFor).defects s.dictionary.knowsFormat = []) :
    Meets s (fun _ => True) (resolveFormat s expand c id onlyFor) := by
  obtain ⟨template, htemplate⟩ := Dictionary.format_of_defects accepted
  simp only [resolveFormat, htemplate]
  split
  · exact hexpand c template made (checked.clean.formats id template htemplate)
  · exact .pure trivial

/-! The induction is on the template, as resolution goes: the body of an accepted piece is accepted. -/

mutual

/-- A fragment without defects fails as expected if everything it calls does. -/
theorem meets_resolveOne (checked : s.Checked) (hexpand : expand.Meets s) (f : Fragment)
    (c : Context) (made : c.Reachable s) (accepted : f.defects s.dictionary.knowsFormat = [])
    (inner : f.innerDefects s.dictionary.knowsFormat = []) :
    Meets s (fun _ => True) (resolveOne s expand f c) := by
  cases f with
  | literal text =>
    rw [resolveOne]
    exact .pure trivial
  | reference label legal =>
    rw [resolveOne]
    exact meets_resolveReference checked hexpand made accepted
  | scope label name body =>
    rw [resolveOne]
    refine (Meets.ofExcept (meets_enterScope accepted made)).bind fun entered made' => ?_
    exact meets_resolveWith checked hexpand body entered made' inner
  | series source separator filter unique body =>
    rw [resolveOne]
    refine (Meets.ofExcept (meets_seriesElements accepted _)).bind fun elements _ => ?_
    refine (Meets.mapM (fun element => ?_) elements).bind fun texts _ => .pure trivial
    refine (Meets.ofExcept (Context.meets_enter made element)).bind fun entered made' => ?_
    exact meets_resolveWith checked hexpand body entered made' inner
  | line body =>
    rw [resolveOne]
    exact (meets_resolveWith checked hexpand body c made inner).bind fun _ _ => .pure trivial
  | indent body =>
    rw [resolveOne]
    exact meets_resolveWith checked hexpand body _ made.indented inner
  | format id onlyFor =>
    rw [resolveOne]
    exact meets_resolveFormat checked hexpand made accepted
  | conditional condition body =>
    rw [resolveOne]
    refine (Meets.ofExcept (meets_conditionHolds accepted)).bind fun holds _ => ?_
    split
    · exact (meets_resolveWith checked hexpand body c made inner).bind fun _ _ => .pure trivial
    · exact .pure trivial

/-- A template without defects does. -/
theorem meets_resolveWith (checked : s.Checked) (hexpand : expand.Meets s)
    (template : List Fragment) (c : Context) (made : c.Reachable s)
    (accepted : s.dictionary.Accepts template) :
    Meets s (fun _ => True) (resolveWith s expand template c) := by
  cases template with
  | nil =>
    rw [resolveWith]
    exact .pure trivial
  | cons f rest =>
    rw [resolveWith]
    obtain ⟨here, inner, others⟩ := Dictionary.accepts_cons.1 accepted
    have piece := meets_resolveOne checked hexpand f c made here inner
    -- Noting the piece in an error leaves the cause as it is.
    have first : Meets s (fun _ => True)
        (mapError (GenerationError.inFragment f.describe) (resolveOne s expand f c)) :=
      piece.mapError fun _ expected => expected
    refine first.bind fun text _ => ?_
    exact (meets_resolveWith checked hexpand rest c made others).bind fun _ _ => .pure trivial

end

/-- Templates that were examined fail as expected at every bound on the depth of templates inside each
other. -/
theorem meets_resolveUpTo (checked : s.Checked) (depth : Nat) : (resolveUpTo s depth).Meets s := by
  induction depth with
  | zero =>
    intro c template made accepted
    exact .throw trivial
  | succ depth ih =>
    intro c template made accepted
    exact meets_resolveWith checked ih template c made accepted

end Templates

/-! ## Passes over a dictionary without findings -/

namespace Pass

/-- A pass over a clean dictionary starts with everything checked. -/
theorem checked_start {m : StoryModel} {d : Dictionary} {rules : NamingRules} (location : Location)
    (identifiers : LegalPattern.Readable LegalPattern.defaultNaming) (clean : d.Clean)
    (blocks : ∀ id b, m.codeBlock? id = some b → d.Accepts b.code)
    (pattern : ∀ source, rules.pattern = some source → LegalPattern.Readable source) :
    (start m d location rules).setting.Checked where
  clean := clean
  blocks := blocks
  naming := by
    simp only [start]
    cases hrules : rules.pattern with
    | some source => exact pattern source hrules
    | none =>
      cases hnaming : d.namingPattern with
      | some source => exact clean.naming source hnaming
      | none => exact identifiers

/-- The failures that are left in a pass over a dictionary in which the linter finds nothing, and a story
whose code it accepts too. The pattern that is used where a dictionary has none is one of the library. -/
theorem linted_failures_are_expected (identifiers : LegalPattern.Readable LegalPattern.defaultNaming)
    (m : StoryModel) (d : Dictionary) (location : Location) (rules : NamingRules) (clean : d.lint = [])
    (blocks : ∀ id b, m.codeBlock? id = some b → templateDefects d.knowsFormat b.code = [])
    (pattern : ∀ source, rules.pattern = some source → ∃ p, LegalPattern.compile source = .ok p) :
    let s := (start m d location rules).setting
    ∀ (depth : Nat) (c : Context) (template : Template), c.Reachable s →
      (template ∈ d.templates.map Prod.snd ∨
        ∃ id b, m.codeBlock? id = some b ∧ template = b.code) →
      ∀ (p : Pass) (e : GenerationError) (after : Pass),
        p.run (resolveUpTo s depth c template) = (.error e, after) → e.problem.Expected s := by
  intro s depth c template made origin p e after failed
  have checked : s.Checked :=
    checked_start location identifiers (Dictionary.clean_of_lint clean) blocks pattern
  have accepted : d.Accepts template := by
    rcases origin with own | ⟨id, b, hb, rfl⟩
    · obtain ⟨place, hplace, rfl⟩ := List.mem_map.1 own
      exact Dictionary.accepts_of_lint clean place hplace
    · exact blocks id b hb
  obtain ⟨ended, -⟩ := run_eq_error_iff.1 failed
  exact (meets_resolveUpTo checked depth c template made accepted).error _ _ _ ended

end Pass

end Library

namespace Pass

open Libraries

/-- A dictionary in which the linter finds nothing, though its format asks variables for their code. -/
def codeDictionary : Dictionary where
  name := "Plain"
  formats := .ofList [("children",
    [.series "children" ", " (.byName "H[a-z]+") true [.reference "Code" (some "[a-z]+")]])]

def childrenBlock : CodeBlock :=
  { id := ⟨1⟩, slot := "heard", code := [.line [.format "children" none]] }

/-- A story with this block and a variable. -/
def codeStory : StoryModel where
  root := ⟨0⟩
  components := .ofList [
    (⟨0⟩, ⟨⟨0⟩, "Start", none, .storyPoint { children := [⟨1⟩] }⟩),
    (⟨1⟩, ⟨⟨1⟩, "Hero", some ⟨0⟩, .knowIt {}⟩)]
  codeBlocks := .ofList [(⟨1⟩, childrenBlock)]

/-- The code of a variable is asked for, under a label of the vocabulary. -/
theorem code_of_variable_expected :
    let start := Pass.start codeStory codeDictionary ⟨"main", none⟩ {}
    let whole : Context := { focus := .file ⟨⟨0⟩, "Start", none, .storyPoint { children := [⟨1⟩] }⟩ }
    ∃ e after, start.run (resolveUpTo start.setting 2 whole childrenBlock.code) = (.error e, after) ∧
      e.problem.Expected start.setting := by
  intro start whole
  obtain ⟨p, compiled, -⟩ := namesIdentifiers
  have identifiers : LegalPattern.Readable LegalPattern.defaultNaming := ⟨p, compiled⟩
  have clean : codeDictionary.lint = [] := by decide +kernel
  have blocks : ∀ id b, codeStory.codeBlock? id = some b →
      templateDefects codeDictionary.knowsFormat b.code = [] := by
    intro id b hb
    have listed : (id, b) ∈ [((⟨1⟩ : CodeBlockId), childrenBlock)] := Table.get?_eq_some_iff.1 hb
    cases List.mem_singleton.1 listed
    decide +kernel
  have fails : (start.run (resolveUpTo start.setting 2 whole childrenBlock.code)).1.isOk = false := by
    decide +kernel
  rcases ended : start.run (resolveUpTo start.setting 2 whole childrenBlock.code) with ⟨e | t, after⟩
  · refine ⟨e, after, rfl, ?_⟩
    exact linted_failures_are_expected identifiers codeStory codeDictionary ⟨"main", none⟩ {} clean blocks
      (by simp) 2 whole childrenBlock.code (.root rfl) (.inr ⟨⟨1⟩, childrenBlock, rfl, rfl⟩)
      start e after ended
  · rw [ended] at fails
    cases fails

end Pass

end StoryLoom
