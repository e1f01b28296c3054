import Mathlib.Logic.Relation
import StoryLoom.Proofs.Generation.Agreement
import StoryLoom.Proofs.Generation.Grounded

/-!
# Blame — which context is told when names run out

- `Context.AsksName` : the contexts whose names the values of a context are made from
- `Context.Surrounds` : one context stands around another, which is entered from it
- `Naming.Blames`    : a computation that fails for the object asked, or tells the context whose name it asked for
- `blames_data`      : the values of a context do, and the templates they are made from stand inside the context

Where a value is reached through a binding, a branch or a subject, the name is asked for in the context of
what is reached. It is this context that the failure tells, and not the one that the value was asked of.
-/

namespace StoryLoom

/-- A focus on an object that has a name: a component, the root as the whole script included, a code block
or a dialogue line. -/
def Focus.IsNamed : Focus → Prop
  | .file _ => True
  | .component _ => True
  | .block _ => True
  | .line _ => True
  | .binding _ _ => False
  | .text _ => False

namespace BindingView

/-- The object whose name a variable's value has. -/
def named? : BindingView → Option Element
  | reference k => some (.component k.id)
  | function k => some (.component k.id)
  | storyPoint k => some (.component k.id)
  | uninitialized k => some (.component k.id)
  | dialogue l => some (.line l.id)
  | unbound => none
  | resource _ => none

/-- The component whose name is written for a variable's value. -/
def written? : BindingView → Option ComponentId
  | reference k => some k.id
  | storyPoint k => some k.id
  | uninitialized k => some k.id
  | _ => none

end BindingView

/-- Whether a key asks for a value, formatted or not. -/
def DataKey.IsValue (key : DataKey) : Prop :=
  key = .value ∨ key = .formattedValue

/-- The contexts whose names the values of a context are made from. -/
inductive Context.AsksName (s : Setting) : Context → DataKey → Context → Prop
  /-- The name of the object itself. -/
  | own {c : Context} (named : c.focus.IsNamed) : AsksName s c .name c
  /-- The name of what a variable is bound to. -/
  | bound {c inner : Context} {knowIt : Component} {view : BindingView} {element : Element}
      (focus : c.focus = .binding knowIt view) (named : view.named? = some element)
      (entered : c.enter s element = .ok inner) : AsksName s c .name inner
  | currentStoryPoint {c inner : Context} {point : Component} (around : c.storyPoint s = .ok point)
      (entered : c.enterComponent s point.id = .ok inner) : AsksName s c .currentStoryPoint inner
  /-- The value of a story point is its name. -/
  | storyPointValue {c : Context} {key : DataKey} {k : Component} {point : StoryPoint}
      (focus : c.focus = .component k) (kind : k.kind = .storyPoint point) (value : key.IsValue) :
      AsksName s c key c
  /-- The value of a variable is asked of its binding. -/
  | variableValue {c inner q : Context} {key : DataKey} {k : Component} {knowIt : KnowIt}
      (focus : c.focus = .component k) (kind : k.kind = .knowIt knowIt) (value : key.IsValue)
      (entered : c.enter s (.binding k.id) = .ok inner) (asks : AsksName s inner key q) :
      AsksName s c key q
  /-- The value of a binding is the name of what it points at. -/
  | bindingValue {c inner : Context} {key : DataKey} {knowIt : Component} {view : BindingView}
      {id : ComponentId} (focus : c.focus = .binding knowIt view) (written : view.written? = some id)
      (value : key.IsValue) (entered : c.enterComponent s id = .ok inner) : AsksName s c key inner
  /-- The condition of a branch is the name of its variable. -/
  | condition {c inner : Context} {k : Component} {ask : AskIt} {id : ComponentId}
      (focus : c.focus = .component k) (kind : k.kind = .askIt ask) (condition : ask.condition = some id)
      (entered : c.enterComponent s id = .ok inner) : AsksName s c .condition inner
  /-- The subject of a block is asked for its value. -/
  | blockSubject {c inner q : Context} {b : CodeBlock} {id : ComponentId} (focus : c.focus = .block b)
      (found : s.model.subjectOf? b = some id) (entered : c.enterComponent s id = .ok inner)
      (asks : AsksName s inner .value q) : AsksName s c .subject q
  /-- The subject of a script is that of its main block. -/
  | scriptSubject {c inner q : Context} {k : Component} {script : ScriptIt} {b : CodeBlock}
      {id : ComponentId} (focus : c.focus = .component k) (kind : k.kind = .scriptIt script)
      (main : c.mainBlock s script = .ok b) (found : s.model.subjectOf? b = some id)
      (entered : c.enterComponent s id = .ok inner) (asks : AsksName s inner .value q) :
      AsksName s c .subject q

namespace Context

variable {s : Setting} {c inner q : Context} {key : DataKey}

/-- What is entered stands inside all that the context stands in. -/
theorem suffix_of_enter {element : Element} (entered : c.enter s element = .ok inner) :
    (c.focus :: c.outer) <:+ (inner.focus :: inner.outer) := by
  obtain ⟨f, -, rfl⟩ := enter_eq_ok_iff.1 entered
  exact List.suffix_cons _ _

/-- A component can be asked for its name. -/
theorem isNamed_of_enterComponent {id : ComponentId} (entered : c.enterComponent s id = .ok inner) :
    inner.focus.IsNamed := by
  obtain ⟨k, -, focus⟩ := enterComponent_eq_ok entered
  rw [focus]
  trivial

theorem isNamed_of_enter_named {view : BindingView} {element : Element} (named : view.named? = some element)
    (entered : c.enter s element = .ok inner) : inner.focus.IsNamed := by
  cases view with
  | unbound | resource r => cases named
  | reference k | function k | storyPoint k | uninitialized k =>
    cases named
    exact isNamed_of_enterComponent entered
  | dialogue l =>
    cases named
    obtain ⟨l', -, focus⟩ := enterLine_eq_ok entered
    rw [focus]
    trivial

namespace AsksName

/-- No name is asked of a binding or of a text. -/
theorem isNamed (asks : AsksName s c key q) : q.focus.IsNamed := by
  induction asks with
  | own named => exact named
  | bound focus named entered => exact isNamed_of_enter_named named entered
  | currentStoryPoint around entered => exact isNamed_of_enterComponent entered
  | storyPointValue focus kind value =>
    rw [focus]
    trivial
  | variableValue focus kind value entered asks ih => exact ih
  | bindingValue focus written value entered => exact isNamed_of_enterComponent entered
  | condition focus kind condition entered => exact isNamed_of_enterComponent entered
  | blockSubject focus found entered asks ih => exact ih
  | scriptSubject focus kind main found entered asks ih => exact ih

/-- Names are asked of the context itself, or further inside. -/
theorem suffix (asks : AsksName s c key q) : (c.focus :: c.outer) <:+ (q.focus :: q.outer) := by
  induction asks with
  | own named => exact List.suffix_rfl
  | bound focus named entered => exact suffix_of_enter entered
  | currentStoryPoint around entered => exact suffix_of_enter entered
  | storyPointValue focus kind value => exact List.suffix_rfl
  | variableValue focus kind value entered asks ih => exact (suffix_of_enter entered).trans ih
  | bindingValue focus written value entered => exact suffix_of_enter entered
  | condition focus kind condition entered => exact suffix_of_enter entered
  | blockSubject focus found entered asks ih => exact (suffix_of_enter entered).trans ih
  | scriptSubject focus kind main found entered asks ih => exact (suffix_of_enter entered).trans ih

end AsksName
end Context

/-! ## Computations that tell whose name they asked for -/

/-- A context stands around those that are entered from it, in any number of steps. -/
def Context.Surrounds (s : Setting) : Context → Context → Prop :=
  Relation.ReflTransGen fun outer inner => ∃ element, outer.enter s element = .ok inner

/-- What is entered from a context that can be made can be made. -/
theorem Context.Reachable.inside {s : Setting} {c inner : Context} (h : c.Reachable s)
    (around : c.Surrounds s inner) : inner.Reachable s := by
  induction around with
  | refl => exact h
  | tail _ entered ih =>
    obtain ⟨element, entered⟩ := entered
    exact .enter ih entered

/-- All templates of an answer stand inside a context, or fail for the object that they would stand on. -/
def Answer.IsInside (s : Setting) (c : Context) : Answer → Prop
  | .text _ => True
  | .parts ps => ∀ p ∈ ps, Inward none p.context ∧ ∀ inner, p.context = .ok inner → c.Surrounds s inner

/-- What stands inside an entered context stands inside that it was entered from. -/
theorem Answer.IsInside.outward {s : Setting} {c inner : Context} {element : Element} {a : Answer}
    (h : a.IsInside s inner) (entered : c.enter s element = .ok inner) : a.IsInside s c := by
  cases a with
  | text t => trivial
  | parts ps =>
    intro p hp
    obtain ⟨inward, below⟩ := h p hp
    exact ⟨inward, fun last ok => .head ⟨element, entered⟩ (below last ok)⟩

/-- A template resolved here stands inside this context. -/
theorem Context.isInside_part {s : Setting} (c : Context) (template : Template) : (c.part template).IsInside s c := by
  intro p hp
  rw [List.mem_singleton.1 hp]
  refine ⟨Inward.ok c, ?_⟩
  rintro _ ⟨⟩
  exact .refl

/-- The failure of a lookup is told to no context. -/
theorem GenerationError.OfLookup.inContext {noted : Option String} {e : GenerationError} (h : e.OfLookup noted)
    (context : String) : e.inContext context = e := by
  unfold GenerationError.inContext
  split
  · next cause exhausted => exact absurd exhausted (h.not_exhausted cause none)
  · rfl

variable [PatternLibrary]

/-- A computation that fails for the object asked, or tells the context whose name it asked for, which is one
of those `asked`. -/
structure Naming.Blames (s : Setting) (legal : Option String) (asked : Context → Prop) {α : Type}
    (good : α → Prop) (x : Naming α) : Prop where
  ok : ∀ n a next, x n = .ok a next → good a
  error : ∀ n e next, x n = .error e next → e.OfFocus none ∨
    ∃ q cause, asked q ∧ e = ⟨.namesExhausted cause (some (q.describe s)), none⟩ ∧
      q.name s legal n = .error e next

namespace Naming.Blames

variable {s : Setting} {legal : Option String} {asked asked' : Context → Prop} {α β : Type}
  {good : α → Prop}

theorem pure {a : α} (h : good a) : Blames s legal asked good (pure a) where
  ok := by
    rintro n _ next ⟨⟩
    exact h
  error := by
    intro n e next failed
    cases failed

/-- A failure of the object itself blames no name. -/
theorem throw {e : GenerationError} (h : e.OfFocus none) :
    Blames s legal asked good (throw e : Naming α) where
  ok := by
    intro n a next found
    cases found
  error := by
    rintro n _ next ⟨⟩
    exact .inl h

/-- What is looked up first asks for no name. -/
theorem lookUp {y : Except GenerationError β} {f : β → Naming α} (inward : Inward none y)
    (h : ∀ b, y = .ok b → Blames s legal asked good (f b)) :
    Blames s legal asked good (ofExcept y >>= f) := by
  cases y with
  | ok b => exact h b rfl
  | error e => exact throw (inward e rfl)

/-- More contexts may be blamed. -/
theorem imp {x : Naming α} (hx : Blames s legal asked good x) (h : ∀ q, asked q → asked' q) :
    Blames s legal asked' good x where
  ok := hx.ok
  error := by
    intro n e next failed
    rcases hx.error n e next failed with inward | ⟨q, cause, isAsked, rest⟩
    · exact .inl inward
    · exact .inr ⟨q, cause, h q isAsked, rest⟩

/-- What is asked in an entered context is asked in that it was entered from. -/
theorem outward {c inner : Context} {element : Element} {x : Naming Answer}
    (hx : Blames s legal asked (Answer.IsInside s inner) x) (entered : c.enter s element = .ok inner) :
    Blames s legal asked (Answer.IsInside s c) x where
  ok := fun n a next found => (hx.ok n a next found).outward entered
  error := hx.error

theorem answerName {c : Context} {x : Naming String} (hx : Blames s legal asked (fun _ => True) x) :
    Blames s legal asked (Answer.IsInside s c) (Context.answerName x) where
  ok := by
    intro n a next found
    obtain ⟨name, middle, -, answered⟩ := bind_eq_ok_iff.1 found
    cases answered
    trivial
  error := by
    intro n e next failed
    rcases bind_eq_error_iff.1 failed with failed | ⟨name, middle, -, answered⟩
    · exact hx.error n e next failed
    · cases answered

theorem answerOf {c : Context} {t : Except GenerationError String} (inward : Inward none t) :
    Blames s legal asked (Answer.IsInside s c) (Context.answerOf t) :=
  lookUp inward fun _ _ => pure trivial

end Naming.Blames

/-! ## Names -/

namespace Context

open Naming

variable {s : Setting} (legal : Option String)

/-- A request for a name in a context fails by its pattern, or tells the context. -/
theorem error_of_nameHere {c : Context} {identity : Identity} {text : String} {key : Option AliasKey}
    {n next : Namer} {e : GenerationError}
    (failed : c.nameHere s identity text key legal n = .error e next) :
    e.OfFocus none ∨ ∃ cause, e = ⟨.namesExhausted cause (some (c.describe s)), none⟩ := by
  obtain ⟨e', asked, rfl⟩ := mapError_eq_error_iff.1 failed
  have outcome := Setting.outcome_nameOf s identity text key legal n
  rw [asked] at outcome
  cases outcome with
  | unreadable refused =>
    have inward : e'.OfFocus none := s.inward_legal legal e' refused
    rw [inward.1.inContext]
    exact .inl inward
  | exhausted cause => exact .inr ⟨_, rfl⟩

/-- Where a component is named, either the object fails or names run out in this context. -/
theorem error_of_componentName {c : Context} {k : Component} {n next : Namer} {e : GenerationError}
    (failed : c.componentName s k legal n = .error e next) :
    e.OfFocus none ∨ ∃ cause, e = ⟨.namesExhausted cause (some (c.describe s)), none⟩ := by
  unfold componentName at failed
  cases isScript : k.script? with
  | none =>
    rw [isScript] at failed
    exact error_of_nameHere legal failed
  | some script =>
    rw [isScript] at failed
    cases main : c.mainBlock s script with
    | ok b =>
      simp only [main] at failed
      exact error_of_nameHere legal failed
    | error e' =>
      simp only [main] at failed
      cases failed
      exact .inl (c.inward_mainBlock script e main)

/-- A context on an object with a name is told itself. -/
theorem blames_name_own {c : Context} (named : c.focus.IsNamed) :
    Blames s legal (· = c) (fun _ => True) (c.name s legal) where
  ok := fun _ _ _ _ => trivial
  error := by
    intro n e next failed
    have told : e.OfFocus none ∨ ∃ cause, e = ⟨.namesExhausted cause (some (c.describe s)), none⟩ := by
      unfold name at failed
      cases focus : c.focus with
      | file root | component k =>
        rw [focus] at failed
        exact error_of_componentName legal failed
      | block b | line l =>
        rw [focus] at failed
        exact error_of_nameHere legal failed
      | binding knowIt view | text t =>
        rw [focus] at named
        cases named
    rcases told with inward | ⟨cause, rfl⟩
    · exact .inl inward
    · exact .inr ⟨c, cause, rfl, rfl, failed⟩

/-- Names that run out for another component run out in the context of that component. -/
theorem blames_nameOfComponent (c : Context) (id : ComponentId) :
    Blames s legal (fun q => c.enterComponent s id = .ok q) (fun _ => True)
      (c.nameOfComponent s id legal) := by
  refine .lookUp (c.inward_enter (.component id)) fun inner entered => ?_
  -- The name is asked for in the entered context, which is then told itself.
  have own := blames_name_own (s := s) legal (isNamed_of_enterComponent entered)
  obtain ⟨k, -, focus⟩ := enterComponent_eq_ok entered
  simp only [name, focus] at own ⊢
  exact own.imp fun q same => same ▸ entered

theorem blames_nameOfLine (c : Context) (id : LineId) :
    Blames s legal (fun q => c.enter s (.line id) = .ok q) (fun _ => True) (c.nameOfLine s id legal) := by
  refine .lookUp (c.inward_enter (.line id)) fun inner entered => ?_
  obtain ⟨l, -, focus⟩ := enterLine_eq_ok entered
  have own := blames_name_own (s := s) (c := inner) legal (by rw [focus]; trivial)
  simp only [name, focus] at own ⊢
  exact own.imp fun q same => same ▸ entered

/-- A variable's value is named in a context of the object it points at. -/
theorem blames_bindingName (c : Context) (view : BindingView) :
    Blames s legal (fun q => ∃ element, view.named? = some element ∧ c.enter s element = .ok q)
      (fun _ => True) (c.bindingName s view legal) := by
  cases view with
  | unbound => exact .throw (by simp)
  | resource r => exact .pure trivial
  | reference k | function k | storyPoint k | uninitialized k =>
    exact (blames_nameOfComponent legal c k.id).imp fun _ entered => ⟨.component k.id, rfl, entered⟩
  | dialogue l => exact (blames_nameOfLine legal c l.id).imp fun _ entered => ⟨.line l.id, rfl, entered⟩

theorem blames_name (c : Context) :
    Blames s legal (c.AsksName s .name) (fun _ => True) (c.name s legal) := by
  by_cases named : c.focus.IsNamed
  · refine (blames_name_own legal named).imp ?_
    rintro q rfl
    exact .own named
  · -- Of the contexts on no object with a name, only bindings pass the request on.
    unfold name
    cases focus : c.focus with
    | file root | component k | block b | line l =>
      rw [focus] at named
      exact absurd trivial named
    | binding knowIt view =>
      exact (blames_bindingName legal c view).imp fun q ⟨element, target, entered⟩ =>
        .bound focus target entered
    | text t => exact .pure trivial

/-! ## Values -/

variable {c : Context} {asked : Context → Prop}

theorem blames_missing {good : Answer → Prop} {what : String} (other : what ≠ "enclosing story point") :
    Blames s legal asked good (throw (c.missing s what)) :=
  .throw (c.ofFocus_missing.2 other)

theorem blames_refuse {good : Answer → Prop} (key : DataKey) :
    Blames s legal asked good (c.refuse s key) :=
  .throw (by simp)

theorem blames_answer (t : String) : Blames s legal asked (Answer.IsInside s c) (answer t) :=
  .pure trivial

/-- A value is made from the name of the component that is written for it. -/
theorem blames_value {knowIt : Component} {view : BindingView} :
    Blames s legal (fun q => ∃ id, view.written? = some id ∧ c.enterComponent s id = .ok q)
      (Answer.IsInside s c)
      (c.value s knowIt view legal) := by
  cases view with
  | unbound => exact blames_missing legal (by decide)
  | resource r => exact .answerOf (inward_resourceText s _ r)
  | reference k | storyPoint k | uninitialized k =>
    exact (blames_nameOfComponent legal c k.id).answerName.imp fun _ entered => ⟨k.id, rfl, entered⟩
  | function script =>
    simp only [value, callOf]
    split
    · exact .throw (by simp)
    · exact .lookUp (c.inward_enter (.component script.id)) fun inner entered =>
        .pure ((isInside_part inner _).outward entered)
  | dialogue l => exact blames_answer legal _

theorem blames_bindingData {knowIt : Component} {view : BindingView} (key : DataKey) :
    Blames s legal
      (fun q => key.IsValue ∧ ∃ id, view.written? = some id ∧ c.enterComponent s id = .ok q)
      (Answer.IsInside s c) (c.bindingData s key legal knowIt view) := by
  unfold bindingData
  split
  · exact (blames_value legal).imp fun q asked => ⟨.inl rfl, asked⟩
  · unfold formattedValue
    dsimp only
    split
    · exact (blames_value legal).imp fun q asked => ⟨.inr rfl, asked⟩
    · exact .pure (isInside_part c _)
  · exact .answerOf (c.inward_codeSymbol _)
  · split
    · exact blames_answer legal _
    · exact blames_missing legal (by decide)
  · exact blames_answer legal _
  · exact blames_answer legal _
  · exact blames_refuse legal _

theorem blames_knowItData {k : Component} {knowIt : KnowIt} (focus : c.focus = .component k)
    (kind : k.kind = .knowIt knowIt) (key : DataKey) :
    Blames s legal (c.AsksName s key) (Answer.IsInside s c) (c.knowItData s key legal k) := by
  refine .lookUp (c.inward_enter (.binding k.id)) fun inner entered => ?_
  cases held : inner.focus with
  | binding knowIt view =>
    -- From the variable to its binding, and from there to what it points at.
    refine ((blames_bindingData legal key).outward entered).imp ?_
    rintro q ⟨value, id, written, target⟩
    exact .variableValue focus kind value entered (.bindingValue held written value target)
  | file root | component k' | block b | line l | text t => exact blames_refuse legal key

theorem blames_componentValue {k : Component} {key : DataKey} (focus : c.focus = .component k)
    (value : key.IsValue) :
    Blames s legal (c.AsksName s key) (Answer.IsInside s c) (c.componentValue s key legal k) := by
  unfold componentValue
  cases kind : k.kind with
  | storyPoint point =>
    -- A story point is not entered anew: its value is its name in this very context.
    have own := blames_name_own (s := s) (c := c) legal (by rw [focus]; trivial)
    simp only [name, focus] at own
    refine own.answerName.imp ?_
    rintro q rfl
    exact .storyPointValue focus kind value
  | knowIt knowIt => exact blames_knowItData legal focus kind key
  | scriptIt | askIt | container | note | task | behaviour => exact blames_refuse legal key

/-- The subject of a block is asked for its value, in its own context. -/
theorem blames_subjectValue (c : Context) (b : CodeBlock) :
    Blames s legal
      (fun q => ∃ id inner, s.model.subjectOf? b = some id ∧ c.enterComponent s id = .ok inner ∧
        inner.AsksName s .value q)
      (Answer.IsInside s c) (c.subjectValue s b legal) := by
  unfold subjectValue
  cases found : s.model.subjectOf? b with
  | none => exact blames_missing legal (by decide)
  | some id =>
    refine .lookUp (c.inward_enter (.component id)) fun inner entered => ?_
    obtain ⟨k, -, focus⟩ := enterComponent_eq_ok entered
    simp only [focus]
    exact ((blames_componentValue legal focus (.inl rfl)).outward entered).imp fun q asks =>
      ⟨id, inner, rfl, entered, asks⟩

/-- The whole script is asked for no name but its own. -/
theorem blames_fileData (c : Context) (key : DataKey) :
    Blames s legal asked (Answer.IsInside s c) (c.fileData s key) := by
  unfold fileData
  split
  · exact blames_answer legal _
  · split
    · exact blames_answer legal _
    · exact blames_missing legal (by decide)
  · exact blames_refuse legal key

theorem blames_taskData (c : Context) (key : DataKey) (k : Component) (task : Task) :
    Blames s legal asked (Answer.IsInside s c) (c.taskData s key k task) := by
  unfold taskData
  split
  · exact blames_answer legal _
  · exact blames_answer legal _
  · exact .answerOf ((c.inward_lowerChance k).map _)
  · exact .answerOf ((c.inward_lowerChance k).map _)
  · exact blames_refuse legal key

/-- The values of a script are made from names as `AsksName` says. -/
theorem blames_scriptData {k : Component} {script : ScriptIt} (focus : c.focus = .component k)
    (kind : k.kind = .scriptIt script) (key : DataKey) :
    Blames s legal (c.AsksName s key) (Answer.IsInside s c) (c.scriptData s key legal script) := by
  have main : Inward none (c.mainBlock s script) := c.inward_mainBlock script
  unfold scriptData
  split
  · exact .answerOf (main.bind fun b => c.inward_codeSymbol _)
  · -- The code of a script is handed out with contexts that may not exist.
    refine .pure fun p hp => ?_
    obtain ⟨b, -, rfl⟩ := List.mem_map.1 hp
    exact ⟨c.inward_enter _, fun inner entered => .single ⟨_, entered⟩⟩
  · refine .lookUp main fun b _ => ?_
    split
    · exact blames_answer legal _
    · exact blames_missing legal (quoted_ne_storyPoint _)
  · refine .lookUp main fun b found => (blames_subjectValue legal c b).imp ?_
    rintro q ⟨id, inner, subject, entered, asks⟩
    exact .scriptSubject focus kind found subject entered asks
  · exact .answerOf (main.bind fun b => .pure _)
  · split
    · split
      · exact blames_missing legal (by decide)
      · split
        · exact .pure (isInside_part c _)
        · exact .throw (by simp)
    · exact blames_refuse legal _
  · exact .pure (isInside_part c _)
  · exact .pure (isInside_part c _)
  · exact blames_refuse legal key

/-- So are those of a component. -/
theorem blames_componentData {k : Component} (focus : c.focus = .component k) (key : DataKey) :
    Blames s legal (c.AsksName s key) (Answer.IsInside s c) (c.componentData s key legal k) := by
  unfold componentData
  split
  · exact blames_componentValue legal focus (.inl rfl)
  · exact blames_componentValue legal focus (.inr rfl)
  · exact blames_answer legal _
  · exact blames_answer legal _
  · exact blames_taskData legal c _ k _
  · next kind => exact blames_scriptData legal focus kind _
  · exact .answerOf (c.inward_codeSymbol _)
  · exact blames_componentValue legal focus (.inl rfl)
  · exact blames_componentValue legal focus (.inr rfl)
  · next kind =>
    simp only [componentValue, kind]
    exact blames_knowItData legal focus kind _
  · next kind =>
    simp only [componentValue, kind]
    exact blames_knowItData legal focus kind _
  · next ask kind =>
    split
    · next id condition =>
      exact (blames_nameOfComponent legal c id).answerName.imp fun q entered =>
        .condition focus kind condition entered
    · exact blames_missing legal (by decide)
  · exact blames_refuse legal _

/-- So are those of a block. -/
theorem blames_blockData {b : CodeBlock} (focus : c.focus = .block b) (key : DataKey) :
    Blames s legal (c.AsksName s key) (Answer.IsInside s c) (c.blockData s key legal b) := by
  unfold blockData
  split
  · exact .answerOf (c.inward_codeSymbol _)
  · exact .pure (isInside_part c _)
  · exact blames_answer legal _
  · refine (blames_subjectValue legal c b).imp ?_
    rintro q ⟨id, inner, subject, entered, asks⟩
    exact .blockSubject focus subject entered asks
  · exact blames_refuse legal key

/-- A line has no value that is made from names. -/
theorem blames_lineData (c : Context) (key : DataKey) (l : DialogueLine) :
    Blames s legal asked (Answer.IsInside s c) (c.lineData s key l) := by
  unfold lineData
  split
  · exact blames_answer legal _
  · exact blames_answer legal _
  · dsimp only
    split
    · exact blames_answer legal _
    · exact .pure (isInside_part c _)
  · exact .answerOf (c.inward_codeSymbol _)
  · exact blames_answer legal _
  · exact blames_answer legal _
  · exact blames_answer legal _
  · exact blames_refuse legal key

theorem blames_textData (c : Context) (key : DataKey) (t : String) :
    Blames s legal asked (Answer.IsInside s c) (c.textData s key t) := by
  unfold textData
  split
  · exact blames_answer legal _
  · exact blames_answer legal _
  · exact blames_refuse legal key

/-- Of a context without a story point around it, the value of that key only fails for want of one. -/
theorem data_fails_or_around (c : Context) (key : DataKey) :
    (∃ e, c.storyPoint s = .error e ∧ c.data s key legal = throw e) ∨
      (key = .currentStoryPoint → ∃ point, c.storyPoint s = .ok point) := by
  cases looked : c.storyPoint s with
  | ok point => exact .inr fun _ => ⟨point, rfl⟩
  | error e =>
    by_cases asks : key = .currentStoryPoint
    · refine .inl ⟨e, rfl, ?_⟩
      rw [asks, data, looked]
      rfl
    · exact .inr fun same => absurd same asks

/-- Where a story point is around the context, the value of a key fails for the object asked only, or tells
the context whose name it asked for. -/
theorem blames_data (c : Context) {key : DataKey}
    (around : key = .currentStoryPoint → ∃ point, c.storyPoint s = .ok point) :
    Blames s legal (c.AsksName s key) (Answer.IsInside s c) (c.data s key legal) := by
  unfold data
  split
  · exact (blames_name legal c).answerName
  · exact blames_answer legal _
  · split
    · exact blames_answer legal _
    · exact blames_refuse legal _
  · obtain ⟨point, around⟩ := around rfl
    rw [around]
    exact (blames_nameOfComponent legal c point.id).answerName.imp fun q entered =>
      .currentStoryPoint around entered
  · split
    · exact blames_fileData legal c key
    · next focus => exact blames_componentData legal focus key
    · next focus => exact blames_blockData legal focus key
    · next focus =>
      refine (blames_bindingData legal key).imp ?_
      rintro q ⟨value, id, written, entered⟩
      exact .bindingValue focus written value entered
    · exact blames_lineData legal c key _
    · exact blames_textData legal c key _

end Context
end StoryLoom
