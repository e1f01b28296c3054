import StoryLoom.Pattern.Compile
import StoryLoom.Proofs.Generation.Reach
import StoryLoom.Proofs.Generation.Repetition

/-!
# Agreement — one name for an object, wherever it is asked for

- `identityOf?`, `valueTarget?` : the identity of a component, and the component a value names
- `Request.AsksFor`     : the requests for the name of an object
- `Naming.Tells`        : computations that answer the name of an identity
- `tells_of_asksFor`    : all these requests do
- `Naming.Traced`       : computations that name by requests for single identities
- `declaration_and_use_agree` : the names of a pass

Two requests for one object need not meet in one place of the code. What they share is the identity under
which the name is kept, so that each of them is compared with the table of names and not with the other.
-/

namespace StoryLoom

/-! ## What a request asks for -/

/-- The identity of a component. A script goes by its main block. -/
def Component.identity? (m : StoryModel) (k : Component) : Option Identity :=
  match k.script? with
  | some script => (m.mainBlock? script).map (fun b => .codeBlock b.id)
  | none => some (.component k.id)

def StoryModel.identityOf? (m : StoryModel) (id : ComponentId) : Option Identity :=
  (m.component? id).bind (Component.identity? m)

/-- The component whose name is the value of a variable that is bound so. -/
def Binding.valueTarget? : Binding → Option ComponentId
  | .reference id => some id
  | .storyPoint id => some id
  | .uninitialized id => some id
  | _ => none

/-- The component whose name is the value of a component. -/
def Component.valueTarget? (k : Component) : Option ComponentId :=
  match k.kind with
  | .storyPoint _ => some k.id
  | .knowIt v => v.binding.valueTarget?
  | _ => none

/-- The component whose value a focus offers. -/
def Focus.valued? : Focus → Option Component
  | .component k => some k
  | .binding knowIt _ => some knowIt
  | _ => none

/-- Whether a key asks for a value as it is: a formatted value is, where no format is set. -/
def DataKey.IsPlain (s : Setting) (k : Component) (key : DataKey) : Prop :=
  key = .value ∨
    key = .formattedValue ∧ Context.formatOf s (k.knowIt?.bind (fun v => v.types.head?)) = []

/-- The requests for the name of the object with an identity. -/
inductive Request.AsksFor (s : Setting) : Request → Identity → Prop
  /-- The name of a component, or of the root as the whole script. -/
  | component {c : Context} {k : Component} {i : Identity} {legal : Option String}
      (focus : c.focus.component? = some k) (named : k.identity? s.model = some i) :
      AsksFor s (.name c legal) i
  | block {c : Context} {b : CodeBlock} {legal : Option String} (focus : c.focus = .block b) :
      AsksFor s (.name c legal) (.codeBlock b.id)
  | line {c : Context} {l : DialogueLine} {legal : Option String} (focus : c.focus = .line l) :
      AsksFor s (.name c legal) (.line l.id)
  /-- The name of what a variable is bound to. -/
  | bound {c : Context} {knowIt : Component} {view : BindingView} {v : KnowIt} {id : ComponentId}
      {i : Identity} {legal : Option String} (focus : c.focus = .binding knowIt view)
      (held : knowIt.knowIt? = some v) (target : v.binding.target? = some id)
      (named : s.model.identityOf? id = some i) : AsksFor s (.name c legal) i
  | dialogue {c : Context} {knowIt : Component} {l : DialogueLine} {legal : Option String}
      (focus : c.focus = .binding knowIt (.dialogue l)) : AsksFor s (.name c legal) (.line l.id)
  /-- A reference to the name. -/
  | data {c : Context} {i : Identity} {legal : Option String} (named : AsksFor s (.name c legal) i) :
      AsksFor s (.data c .name legal) i
  /-- The value of a variable, asked of it or of its binding, or the value of a story point. -/
  | value {c : Context} {k : Component} {id : ComponentId} {i : Identity} {key : DataKey}
      {legal : Option String} (focus : c.focus.valued? = some k) (plain : key.IsPlain s k)
      (target : k.valueTarget? = some id) (named : s.model.identityOf? id = some i) :
      AsksFor s (.data c key legal) i
  /-- The value of the subject of a block. -/
  | subject {c : Context} {b : CodeBlock} {subject id : ComponentId} {k : Component} {i : Identity}
      {legal : Option String} (focus : c.focus = .block b) (found : s.model.subjectOf? b = some subject)
      (component : s.model.component? subject = some k) (target : k.valueTarget? = some id)
      (named : s.model.identityOf? id = some i) : AsksFor s (.data c .subject legal) i
  /-- The condition of a branch. -/
  | condition {c : Context} {k : Component} {ask : AskIt} {id : ComponentId} {i : Identity}
      {legal : Option String} (focus : c.focus = .component k) (kind : k.kind = .askIt ask)
      (condition : ask.condition = some id) (named : s.model.identityOf? id = some i) :
      AsksFor s (.data c .condition legal) i
  /-- The story point around a context. -/
  | currentStoryPoint {c : Context} {point : Component} {i : Identity} {legal : Option String}
      (around : c.storyPoint? s = some point) (named : point.identity? s.model = some i) :
      AsksFor s (.data c .currentStoryPoint legal) i
  /-- Any other request, such as one that a template makes. -/
  | identity {i : Identity} {t : String} {legal : Option String} : AsksFor s (.identity i t legal) i

/-- The context of a request, if it has one, can be made during the pass. -/
def Request.Reachable (s : Setting) : Request → Prop
  | .name c _ => c.Reachable s
  | .data c _ _ => c.Reachable s
  | .text c _ => c.Reachable s
  | .identity _ _ _ => True

/-! ## Computations that answer the name of an identity -/

def Answer.text? : Answer → Option String
  | .text t => some t
  | .parts _ => none

/-- A computation whose result, if it has one, is the name that an identity has from then on. -/
def Naming.Tells {α : Type} (text : α → Option String) (i : Identity) (x : Naming α) : Prop :=
  ∀ ⦃n a next⦄, x n = .ok a next → ∃ name, text a = some name ∧ next.nameOf? i = some name

namespace Naming.Tells

variable {α β : Type} {text : α → Option String} {i : Identity}

theorem mapError {x : Naming α} {f : GenerationError → GenerationError} (h : Tells text i x) :
    Tells text i (mapError f x) := by
  intro n a next hx
  exact h (mapError_eq_ok_iff.1 hx)

/-- What is looked up first gives no name. -/
theorem lookUp {e : Except GenerationError β} {f : β → Naming α}
    (h : ∀ b, e = .ok b → Tells text i (f b)) : Tells text i (ofExcept e >>= f) := by
  intro n a next hx
  cases e with
  | ok b => exact h b rfl hx
  | error cause => cases hx

theorem answerName {x : Naming String} (h : Tells some i x) :
    Tells Answer.text? i (Context.answerName x) := by
  intro n a next hx
  obtain ⟨name, middle, told, answered⟩ := bind_eq_ok_iff.1 hx
  cases answered
  exact h told

/-- An answer that is a name is resolved to itself. -/
theorem resolveAnswer {x : Naming Answer} {expand : Expand} (h : Tells Answer.text? i x) :
    Tells some i (do StoryLoom.resolveAnswer expand (← x)) := by
  intro n t next hx
  obtain ⟨a, middle, told, resolved⟩ := bind_eq_ok_iff.1 hx
  obtain ⟨name, ha, named⟩ := h told
  cases a with
  | text t' =>
    cases resolved
    exact ⟨name, ha, named⟩
  | parts ps => cases ha

variable [PatternLibrary]

/-- A request for a name tells the name that the identity keeps. -/
theorem nameOf (s : Setting) (t : String) (key : Option AliasKey) (legal : Option String) :
    Tells some i (s.nameOf i t key legal) := by
  intro n name next h
  exact ⟨name, rfl, Setting.nameOf?_of_nameOf h⟩

end Naming.Tells

/-! ## Names -/

namespace Context

open Naming

variable {s : Setting} {i : Identity}

/-- A component is entered only if it exists. -/
theorem enterComponent_eq_ok {c inner : Context} {id : ComponentId}
    (h : c.enterComponent s id = .ok inner) :
    ∃ k, s.model.component? id = some k ∧ inner.focus = .component k := by
  obtain ⟨f, hf, rfl⟩ := enter_eq_ok_iff.1 h
  simp only [focusOn] at hf
  split at hf
  · next k hk =>
    cases hf
    exact ⟨k, hk, rfl⟩
  · cases hf

theorem enterLine_eq_ok {c inner : Context} {id : LineId} (h : c.enter s (.line id) = .ok inner) :
    ∃ l, s.model.line? id = some l ∧ inner.focus = .line l := by
  obtain ⟨f, hf, rfl⟩ := enter_eq_ok_iff.1 h
  simp only [focusOn] at hf
  split at hf
  · next l hl =>
    cases hf
    exact ⟨l, hl, rfl⟩
  · cases hf

/-- What a variable is bound to has the number that the binding says. -/
theorem target_of_view (keyed : s.model.Keyed) {binding : Binding} {view : BindingView}
    (hview : BindingView.of? s.model binding = some view) {id : ComponentId}
    (target : binding.target? = some id) : ∃ k, view.target? = some k ∧ k.id = id := by
  cases binding with
  | unbound => cases target
  | resource r => cases target
  | dialogue l => cases target
  | reference id' | function id' | storyPoint id' | uninitialized id' =>
    cases target
    obtain ⟨k, hk, rfl⟩ := Option.map_eq_some_iff.1 hview
    exact ⟨k, rfl, keyed.component_id hk⟩

/-- A binding by which a name is written points at the component of that name. -/
theorem target?_of_valueTarget? {binding : Binding} {id : ComponentId}
    (target : binding.valueTarget? = some id) : binding.target? = some id := by
  cases binding with
  | reference id' | storyPoint id' | uninitialized id' => exact target
  | unbound | resource r | function id' | dialogue l => cases target

variable [PatternLibrary]

theorem tells_blockName (s : Setting) (c : Context) (b : CodeBlock) (legal : Option String) :
    Tells some (.codeBlock b.id) (c.blockName s b legal) :=
  (Tells.nameOf s _ none legal).mapError

/-- A component is named under its identity, that of its main block if it is a script. -/
theorem tells_componentName {k : Component} (c : Context) (legal : Option String)
    (named : k.identity? s.model = some i) : Tells some i (c.componentName s k legal) := by
  simp only [Component.identity?] at named
  unfold componentName
  cases hscript : k.script? with
  | none =>
    simp only [hscript] at named ⊢
    cases named
    exact (Tells.nameOf s _ _ legal).mapError
  | some script =>
    simp only [hscript] at named ⊢
    obtain ⟨b, hb, rfl⟩ := Option.map_eq_some_iff.1 named
    refine Tells.lookUp fun b' main => ?_
    simp only [mainBlock, hb] at main
    cases main
    exact tells_blockName s c b legal

theorem tells_lineName (s : Setting) (c : Context) (l : DialogueLine) (legal : Option String) :
    Tells some (.line l.id) (c.lineName s l legal) :=
  (Tells.nameOf s _ none legal).mapError

/-- So it is where it is named from elsewhere. -/
theorem tells_nameOfComponent {id : ComponentId} (c : Context) (legal : Option String)
    (named : s.model.identityOf? id = some i) : Tells some i (c.nameOfComponent s id legal) := by
  refine Tells.lookUp fun inner entered => ?_
  obtain ⟨k, hk, focus⟩ := enterComponent_eq_ok entered
  rw [focus]
  simp only [StoryModel.identityOf?, hk, Option.bind_some] at named
  exact tells_componentName inner legal named

/-- A line carries the number it is stored under, so that it is named under that number. -/
theorem tells_nameOfLine (keyed : s.model.Keyed) (c : Context) (id : LineId)
    (legal : Option String) : Tells some (.line id) (c.nameOfLine s id legal) := by
  refine Tells.lookUp fun inner entered => ?_
  obtain ⟨f, hf, rfl⟩ := enter_eq_ok_iff.1 entered
  simp only [focusOn] at hf
  split at hf
  · next l hl =>
    cases hf
    have here := tells_lineName s (c.inside (.line l)) l legal
    rwa [keyed.line_id hl] at here
  · cases hf

theorem tells_bindingName {view : BindingView} {k : Component} (c : Context)
    (legal : Option String) (target : view.target? = some k)
    (named : s.model.identityOf? k.id = some i) : Tells some i (c.bindingName s view legal) := by
  cases view with
  | unbound => cases target
  | resource r => cases target
  | dialogue l => cases target
  | reference k' | function k' | storyPoint k' | uninitialized k' =>
    cases target
    exact tells_nameOfComponent c legal named

/-! ## Values -/

/-- The value of a variable bound to another component is the name of that component. -/
theorem tells_value {knowIt k : Component} {binding : Binding} {view : BindingView}
    {id : ComponentId} (c : Context) (legal : Option String)
    (hview : BindingView.of? s.model binding = some view)
    (valued : binding.valueTarget? = some id) (target : view.target? = some k)
    (named : s.model.identityOf? k.id = some i) :
    Tells Answer.text? i (c.value s knowIt view legal) := by
  cases binding with
  | unbound | resource r | function id' | dialogue l => cases valued
  | reference id' | storyPoint id' | uninitialized id' =>
    obtain ⟨k', -, rfl⟩ := Option.map_eq_some_iff.1 hview
    cases target
    exact (tells_nameOfComponent c legal named).answerName

/-- The value of a variable, asked of its binding. -/
theorem tells_bindingData (keyed : s.model.Keyed) {knowIt : Component} {v : KnowIt}
    {view : BindingView} {id : ComponentId} {key : DataKey} (c : Context) (legal : Option String)
    (held : knowIt.knowIt? = some v) (hview : BindingView.of? s.model v.binding = some view)
    (valued : v.binding.valueTarget? = some id) (plain : key.IsPlain s knowIt)
    (named : s.model.identityOf? id = some i) :
    Tells Answer.text? i (c.bindingData s key legal knowIt view) := by
  obtain ⟨k, target, rfl⟩ := target_of_view keyed hview (target?_of_valueTarget? valued)
  have value : Tells Answer.text? i (c.value s knowIt view legal) :=
    tells_value c legal hview valued target named
  rcases plain with rfl | ⟨rfl, unformatted⟩
  · exact value
  · -- What a component is bound to has no type of its own, only the variable has.
    have noResource : bindingType? knowIt view = v.types.head? := by
      cases view with
      | resource r => cases target
      | _ => simp [bindingType?, held]
    simp only [held, Option.bind_some] at unformatted
    simpa [bindingData, formattedValue, noResource, unformatted] using value

theorem tells_knowItData (keyed : s.model.Keyed) {knowIt : Component} {v : KnowIt}
    {id : ComponentId} {key : DataKey} (c : Context) (legal : Option String)
    (stored : s.model.component? knowIt.id = some knowIt) (held : knowIt.knowIt? = some v)
    (valued : v.binding.valueTarget? = some id) (plain : key.IsPlain s knowIt)
    (named : s.model.identityOf? id = some i) :
    Tells Answer.text? i (c.knowItData s key legal knowIt) := by
  refine Tells.lookUp fun inner entered => ?_
  -- The binding is entered under the number of the variable, which finds the variable again.
  obtain ⟨f, hf, rfl⟩ := enter_eq_ok_iff.1 entered
  cases hview : BindingView.of? s.model v.binding with
  | none => simp [focusOn, stored, held, hview] at hf
  | some view =>
    simp only [focusOn, stored, held, hview] at hf
    cases hf
    exact tells_bindingData keyed _ legal held hview valued plain named

/-- The value of a component that is the name of another, or of itself. -/
theorem tells_componentValue (keyed : s.model.Keyed) {k : Component} {id : ComponentId}
    {key : DataKey} (c : Context) (legal : Option String)
    (stored : s.model.component? k.id = some k) (valued : k.valueTarget? = some id)
    (plain : key.IsPlain s k) (named : s.model.identityOf? id = some i) :
    Tells Answer.text? i (c.componentValue s key legal k) := by
  unfold componentValue
  cases hkind : k.kind with
  | storyPoint point =>
    simp only [Component.valueTarget?, hkind] at valued
    cases valued
    simp only [StoryModel.identityOf?, stored, Option.bind_some] at named
    exact (tells_componentName c legal named).answerName
  | knowIt v =>
    simp only [Component.valueTarget?, hkind] at valued
    have held : k.knowIt? = some v := by simp [Component.knowIt?, hkind]
    exact tells_knowItData keyed c legal stored held valued plain named
  | scriptIt | askIt | container | note | task | behaviour =>
    simp [Component.valueTarget?, hkind] at valued

/-- The value of a subject is the name of the component that the subject is bound to. -/
theorem tells_subjectValue (keyed : s.model.Keyed) {b : CodeBlock} {subject id : ComponentId}
    {k : Component} (c : Context) (legal : Option String)
    (found : s.model.subjectOf? b = some subject) (hk : s.model.component? subject = some k)
    (valued : k.valueTarget? = some id) (named : s.model.identityOf? id = some i) :
    Tells Answer.text? i (c.subjectValue s b legal) := by
  unfold subjectValue
  rw [found]
  refine Tells.lookUp fun inner entered => ?_
  obtain ⟨k', hk', focus⟩ := enterComponent_eq_ok entered
  rw [hk] at hk'
  cases hk'
  rw [focus]
  exact tells_componentValue keyed inner legal (keyed.component?_id hk) valued (.inl rfl) named

/-- The value of a component or of a binding, asked of a context on it. -/
theorem tells_data_of_valued (keyed : s.model.Keyed) {c : Context} (made : c.Reachable s)
    {k : Component} {id : ComponentId} {key : DataKey} (legal : Option String)
    (focus : c.focus.valued? = some k) (plain : key.IsPlain s k)
    (valued : k.valueTarget? = some id) (named : s.model.identityOf? id = some i) :
    Tells Answer.text? i (c.data s key legal) := by
  have stored := made.focus_stored
  cases hf : c.focus with
  | component k' =>
    rw [hf] at focus stored
    cases focus
    obtain ⟨id', hk⟩ := stored
    -- Both keys lead to the value, for a story point and for a variable alike.
    have value : Tells Answer.text? i (c.componentValue s key legal k) :=
      tells_componentValue keyed c legal (keyed.component?_id hk) valued plain named
    have same : c.data s key legal = c.componentValue s key legal k := by
      cases hkind : k.kind with
      | storyPoint point | knowIt v =>
        rcases plain with rfl | ⟨rfl, -⟩ <;> simp [data, hf, componentData, hkind]
      | scriptIt | askIt | container | note | task | behaviour =>
        simp [Component.valueTarget?, hkind] at valued
    rwa [same]
  | binding knowIt view =>
    rw [hf] at focus stored
    cases focus
    obtain ⟨-, v, held, hview⟩ := stored
    have kind : k.kind = .knowIt v := by
      unfold Component.knowIt? at held
      split at held
      · next v' hkind =>
        cases held
        exact hkind
      · cases held
    simp only [Component.valueTarget?, kind] at valued
    have same : c.data s key legal = c.bindingData s key legal k view := by
      rcases plain with rfl | ⟨rfl, -⟩ <;> simp [data, hf]
    rw [same]
    exact tells_bindingData keyed c legal held hview valued plain named
  | file | block | line | text =>
    rw [hf] at focus
    cases focus

end Context

/-! ## Runs of a pass, and its table of names -/

namespace Pass

variable {α β : Type} {p : Pass} {x : Naming α}

theorem run_pure (p : Pass) (a : α) : (p.run (pure a)).2 = p := rfl

theorem run_throw (p : Pass) (e : GenerationError) : (p.run (throw e : Naming α)).2 = p := rfl

/-- After a first step that succeeds, the second one goes on with its names. -/
theorem run_bind_of_ok {f : α → Naming β} {a : α} {next : Namer} (h : x p.namer = .ok a next) :
    (p.run (x >>= f)).2 = ((p.run x).2.run (f a)).2 := by
  simp only [run, Naming.bind_of_ok h, h]

/-- A first step that fails is the last one. -/
theorem run_bind_of_error {f : α → Naming β} {e : GenerationError} {next : Namer}
    (h : x p.namer = .error e next) : (p.run (x >>= f)).2 = (p.run x).2 := by
  simp only [run, Naming.bind_of_error h, h]

theorem run_mapError (p : Pass) (f : GenerationError → GenerationError) (x : Naming α) :
    (p.run (Naming.mapError f x)).2 = (p.run x).2 := by
  cases h : x p.namer with
  | ok a next => simp only [run, Naming.mapError_of_ok h, h]
  | error e next => simp only [run, Naming.mapError_of_error h, h]

/-- The list of names holds just the names that were given. -/
theorem mem_assignedNames_iff {p : Pass} {i : Identity} {name : String} :
    (i, name) ∈ p.assignedNames ↔ p.nameOf? i = some name := by
  unfold assignedNames Namer.assignments nameOf? Namer.nameOf?
  rw [List.mem_mergeSort, Table.get?_eq_some_iff]

/-- Identities with one alias are components. -/
theorem alias_iff_components {m : StoryModel} {i j : Identity} :
    (∃ k, i.alias? m = some k ∧ j.alias? m = some k) ↔
      ∃ x y k, i = .component x ∧ j = .component y ∧ AliasKey.of? m x = some k ∧
        AliasKey.of? m y = some k := by
  constructor
  · rintro ⟨k, hi, hj⟩
    cases i with
    | component x =>
      cases j with
      | component y => exact ⟨x, y, k, rfl, rfl, hi, hj⟩
      | codeBlock b | line l => cases hj
    | codeBlock b | line l => cases hi
  · rintro ⟨x, y, k, rfl, rfl, hx, hy⟩
    exact ⟨k, hx, hy⟩

end Pass

/-! ## Names by requests for single identities -/

section Requests

variable [PatternLibrary]

/-- A request for the name of an object answers the name of its identity. -/
theorem Request.tells_of_asksFor {s : Setting} (keyed : s.model.Keyed) {r : Request} {i : Identity}
    (made : r.Reachable s) (asks : r.AsksFor s i) : Naming.Tells some i (r.computation s) := by
  induction asks with
  | @component c k i legal focus named =>
    have tells := Context.tells_componentName c legal named
    simp only [computation, Context.name]
    cases hf : c.focus <;> rw [hf] at focus <;> cases focus <;> exact tells
  | @block c b legal focus =>
    simp only [computation, Context.name, focus]
    exact Context.tells_blockName s c b legal
  | @line c l legal focus =>
    simp only [computation, Context.name, focus]
    exact Context.tells_lineName s c l legal
  | @bound c knowIt view v id i legal focus held target named =>
    have stored := Context.Reachable.focus_stored made
    rw [focus] at stored
    obtain ⟨-, v', held', hview⟩ := stored
    rw [held] at held'
    cases held'
    obtain ⟨k, target', rfl⟩ := Context.target_of_view keyed hview target
    simp only [computation, Context.name, focus]
    exact Context.tells_bindingName c legal target' named
  | @dialogue c knowIt l legal focus =>
    simp only [computation, Context.name, focus]
    exact Context.tells_nameOfLine keyed c l.id legal
  | data named ih => exact (ih made).answerName.resolveAnswer
  | value focus plain target named =>
    exact (Context.tells_data_of_valued keyed made _ focus plain target named).resolveAnswer
  | @subject c b subject id k i legal focus found component target named =>
    have value := Context.tells_subjectValue keyed c legal found component target named
    have same : c.data s .subject legal = c.subjectValue s b legal := by
      simp [Context.data, focus, Context.blockData]
    rw [← same] at value
    exact value.resolveAnswer
  | @condition c k ask id i legal focus kind condition named =>
    have name := Context.tells_nameOfComponent c legal named
    have same : c.data s .condition legal =
        Context.answerName (c.nameOfComponent s id legal) := by
      simp [Context.data, focus, Context.componentData, kind, condition]
    rw [computation, same]
    exact name.answerName.resolveAnswer
  | @currentStoryPoint c point i legal around named =>
    -- The point is asked for its name under its own number.
    obtain ⟨id, hk⟩ := Context.Reachable.component?_of_storyPoint? made around
    have here : s.model.identityOf? point.id = some i := by
      simp only [StoryModel.identityOf?, keyed.component?_id hk, Option.bind_some, named]
    have name := Context.tells_nameOfComponent c legal here
    have same : c.data s .currentStoryPoint legal =
        Context.answerName (c.nameOfComponent s point.id legal) := by
      simp only [Context.data, Context.storyPoint, around]
      rfl
    rw [computation, same]
    exact name.answerName.resolveAnswer
  | identity => exact Naming.Tells.nameOf s _ _ _

/-- A request for the name of a single identity. -/
def Request.IsSingle (r : Request) : Prop :=
  ∃ i t legal, r = .identity i t legal

/-- A computation that gives the names that some requests for single identities give. -/
def Naming.Traced (s : Setting) (α : Type) (x : Naming α) : Prop :=
  ∀ p : Pass, p.setting = s → ∃ asked : List Request,
    (∀ r ∈ asked, r.IsSingle) ∧ (p.run x).2 = p.afterAll asked

/-- Requests may be answered in two runs. -/
theorem Pass.afterAll_append (p : Pass) (requests later : List Request) :
    p.afterAll (requests ++ later) = (p.afterAll requests).afterAll later := by
  simp [afterAll]

/-- Whatever is put together from requests for names gives no other names. -/
theorem Naming.Traced.closed (s : Setting) : Naming.Closed s (Naming.Traced s) where
  pure a p _ := ⟨[], by simp, p.run_pure a⟩
  throw e p _ := ⟨[], by simp, p.run_throw e⟩
  bind := by
    intro α β x f hx hf p hp
    obtain ⟨asked, single, after⟩ := hx p hp
    cases h : x p.namer with
    | error e next => exact ⟨asked, single, (Pass.run_bind_of_error h).trans after⟩
    | ok a next =>
      -- The requests of the second step follow those of the first.
      obtain ⟨later, single', after'⟩ := hf a (p.run x).2 ((p.setting_run x).trans hp)
      refine ⟨asked ++ later, List.forall_mem_append.2 ⟨single, single'⟩, ?_⟩
      rw [Pass.run_bind_of_ok h, after', after, Pass.afterAll_append]
  mapError := by
    intro α x f hx p hp
    obtain ⟨asked, single, after⟩ := hx p hp
    exact ⟨asked, single, (p.run_mapError f x).trans after⟩
  nameOf := by
    intro i t legal p hp
    subst hp
    refine ⟨[.identity i t legal], ?_, rfl⟩
    intro r hr
    exact ⟨i, t, legal, List.mem_singleton.1 hr⟩

namespace Pass

/-- Whatever is asked of a pass, its names are those that requests for single identities give. -/
theorem afterAll_eq_afterAll_single (p : Pass) (requests : List Request) :
    ∃ asked : List Request, (∀ r ∈ asked, r.IsSingle) ∧ p.afterAll requests = p.afterAll asked := by
  induction requests generalizing p with
  | nil => exact ⟨[], by simp, rfl⟩
  | cons r rest ih =>
    obtain ⟨first, single, after⟩ := (Naming.Traced.closed p.setting).request r p rfl
    obtain ⟨later, single', after'⟩ := ih (p.answer r).2
    refine ⟨first ++ later, List.forall_mem_append.2 ⟨single, single'⟩, ?_⟩
    rw [afterAll_append, ← after]
    exact after'

/-- Requests for single identities call the namer with the alias of the identity. -/
theorem namer_afterAll_single (p : Pass) {asked : List Request} (single : ∀ r ∈ asked, r.IsSingle) :
    ∃ calls : List Namer.Call, (∀ c ∈ calls, c.key = c.identity.alias? p.setting.model) ∧
      (p.afterAll asked).namer = p.namer.afterAll calls := by
  induction asked generalizing p with
  | nil => exact ⟨[], by simp, rfl⟩
  | cons r rest ih =>
    obtain ⟨i, t, legal, rfl⟩ := single r List.mem_cons_self
    have others : ∀ r ∈ rest, r.IsSingle := fun r hr => single r (List.mem_cons_of_mem _ hr)
    obtain ⟨calls, keys, after⟩ := ih (p.answer (.identity i t legal)).2 others
    have same : (p.answer (.identity i t legal)).2.setting = p.setting := setting_run p _
    have first := namer_run p (p.setting.nameOf i t (i.alias? p.setting.model) legal)
    rw [same] at keys
    -- A request that the table of names answers makes no call.
    rcases Setting.after_nameOf p.setting i t (i.alias? p.setting.model) legal p.namer with
      unchanged | ⟨c, hi, hk, called⟩
    · refine ⟨calls, keys, ?_⟩
      rw [← first.trans unchanged]
      exact after
    · refine ⟨c :: calls, ?_, ?_⟩
      · intro d hd
        rcases List.mem_cons.1 hd with rfl | hd
        · rw [hk, hi]
        · exact keys d hd
      · have next : (p.answer (.identity i t legal)).2.namer = p.namer.after c := first.trans called
        rw [next] at after
        exact after

/-- Two different identities have one name during a pass just if they are components with one alias. -/
theorem name_eq_iff_alias_eq (m : StoryModel) (d : Dictionary) (location : Location)
    (rules : NamingRules) (requests : List Request) {i j : Identity} {a b : String} (hij : i ≠ j)
    (hi : ((start m d location rules).afterAll requests).nameOf? i = some a)
    (hj : ((start m d location rules).afterAll requests).nameOf? j = some b) :
    a = b ↔ ∃ k, i.alias? m = some k ∧ j.alias? m = some k := by
  obtain ⟨asked, single, after⟩ := afterAll_eq_afterAll_single (start m d location rules) requests
  obtain ⟨calls, keys, run⟩ := namer_afterAll_single (start m d location rules) single
  rw [nameOf?, after, run] at hi hj
  have faithful := Namer.faithful_run d.reservedWords rules.maxAttempts calls
  -- Every giver is one of the calls, and these carry the alias of their identity.
  have key : ∀ identity name,
      ((Namer.start d.reservedWords rules.maxAttempts).afterAll calls).nameOf? identity = some name →
      (Namer.giver? ((Namer.start d.reservedWords rules.maxAttempts).givers calls) identity).bind
        Namer.Call.key = identity.alias? m := by
    intro identity name named
    obtain ⟨c, hc, rfl⟩ := (faithful.named_iff identity).1 ⟨name, named⟩
    rw [faithful.giver?_eq hc]
    exact keys c (Namer.mem_of_mem_givers hc)
  have iff := faithful.eq_iff_key_eq hij hi hj
  rwa [key i a hi, key j b hj] at iff

end Pass

end Requests

namespace Pass

/-- The names of a pass over a story whose objects carry their numbers. Requests for one object that
succeed answer one name, whatever else is asked of the pass before and between. Different identities
have one name just if they are components with one alias. -/
theorem declaration_and_use_agree [PatternLibrary] (m : StoryModel) (keyed : m.Keyed) (d : Dictionary)
    (location : Location) (rules : NamingRules) :
    let start := Pass.start m d location rules
    (∀ (before between : List Request) (declaration use : Request) (i : Identity),
      declaration.Reachable start.setting → use.Reachable start.setting →
      declaration.AsksFor start.setting i → use.AsksFor start.setting i →
      ∀ p q a b, (start.afterAll before).answer declaration = (.ok a, p) →
        (p.afterAll between).answer use = (.ok b, q) → a = b) ∧
    (∀ (requests : List Request) (i j : Identity) (a b : String), i ≠ j →
      (i, a) ∈ (start.afterAll requests).assignedNames →
      (j, b) ∈ (start.afterAll requests).assignedNames →
      (a = b ↔ ∃ x y k, i = .component x ∧ j = .component y ∧ AliasKey.of? m x = some k ∧
        AliasKey.of? m y = some k)) := by
  intro start
  refine ⟨?_, ?_⟩
  · intro before between declaration use i made made' asks asks' p q a b first second
    have setting : (start.afterAll before).setting = start.setting := setting_afterAll start before
    obtain ⟨first, kept⟩ := run_eq_ok_iff.1 first
    obtain ⟨second, -⟩ := run_eq_ok_iff.1 second
    rw [setting] at first
    rw [setting_afterAll, kept, setting] at second
    -- The first answer is in the table of names, where the second request finds it.
    obtain ⟨name, ha, declared⟩ := Request.tells_of_asksFor keyed made asks first
    obtain ⟨name', hb, used⟩ := Request.tells_of_asksFor keyed made' asks' second
    cases ha
    cases hb
    have before_use := growsTo_afterAll p between i a declared
    have settled := (Naming.Settled.closed start.setting).request use
    have after_use := settled.grows_ok second i a before_use
    exact Option.some.inj (after_use.symm.trans used)
  · intro requests i j a b hij hi hj
    rw [← alias_iff_components]
    exact name_eq_iff_alias_eq m d location rules requests hij (mem_assignedNames_iff.1 hi)
      (mem_assignedNames_iff.1 hj)

open Libraries

/-- A story with a variable, and a second one that is bound to it. -/
def actorStory : StoryModel where
  root := ⟨0⟩
  components := .ofList [
    (⟨0⟩, ⟨⟨0⟩, "Start", none, .storyPoint { children := [⟨1⟩, ⟨2⟩] }⟩),
    (⟨1⟩, ⟨⟨1⟩, "Hero", some ⟨0⟩, .knowIt {}⟩),
    (⟨2⟩, ⟨⟨2⟩, "Actor", some ⟨0⟩, .knowIt { binding := .reference ⟨1⟩ }⟩)]

/-- The context of a variable of this story inside that of the whole script. -/
def actorContext (id : ComponentId) (text : String) (binding : Binding) : Context where
  focus := .component ⟨id, text, some ⟨0⟩, .knowIt { binding := binding }⟩
  outer := [.file ⟨⟨0⟩, "Start", none, .storyPoint { children := [⟨1⟩, ⟨2⟩] }⟩]

/-- A variable, and the value of the one that is bound to it. -/
theorem hero_declared_and_used :
    let start := Pass.start actorStory (.named "Plain") ⟨"main", none⟩ {}
    let declaration := Request.name (actorContext ⟨1⟩ "Hero" .unbound) none
    let use := Request.data (actorContext ⟨2⟩ "Actor" (.reference ⟨1⟩)) .value none
    ∃ p q a b, start.answer declaration = (.ok a, p) ∧ p.answer use = (.ok b, q) ∧ a = b := by
  intro start declaration use
  have keyed : actorStory.Keyed := ⟨by decide, by decide, by decide⟩
  have whole : Context.Reachable start.setting
      { focus := .file ⟨⟨0⟩, "Start", none, .storyPoint { children := [⟨1⟩, ⟨2⟩] }⟩ } := .root rfl
  have hero : declaration.Reachable start.setting :=
    @Context.Reachable.enter _ _ _ (.component ⟨1⟩) whole rfl
  have actor : use.Reachable start.setting :=
    @Context.Reachable.enter _ _ _ (.component ⟨2⟩) whole rfl
  have declares : declaration.AsksFor start.setting (.component ⟨1⟩) := .component rfl rfl
  have uses : use.AsksFor start.setting (.component ⟨1⟩) := .value rfl (.inl rfl) rfl rfl
  have first : (start.answer declaration).1.isOk := by decide +kernel
  have second : ((start.answer declaration).2.answer use).1.isOk := by decide +kernel
  rcases answered : start.answer declaration with ⟨_ | a, p⟩
  · rw [answered] at first
    cases first
  · rw [answered] at second
    rcases answered' : p.answer use with ⟨_ | b, q⟩
    · rw [answered'] at second
      cases second
    · obtain ⟨agree, -⟩ :=
        declaration_and_use_agree actorStory keyed (.named "Plain") ⟨"main", none⟩ {}
      exact ⟨p, q, a, b, rfl, answered', agree [] [] declaration use _ hero actor declares uses
        p q a b answered answered'⟩

end Pass

end StoryLoom
