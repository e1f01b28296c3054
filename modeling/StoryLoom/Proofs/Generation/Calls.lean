import Mathlib.Logic.Relation
import StoryLoom.Proofs.Generation.Computation
import StoryLoom.Proofs.Generation.Grounded
import StoryLoom.Proofs.Generation.Reach

/-!
# Calls — the templates that a template leads to

- `TemplateId`, `Setting.template?` : the templates of a dictionary and a story
- `DataKey.Calls`, `Template.Calls` : what a key, and what a template with everything inside it, leads to
- `Setting.Leads`, `Setting.Acyclic`: the graph of these templates
- `Naming.Yields`                   : computations with a property of their result, which have room enough
- `Answer.Follows`, `yields_data`   : the value of a key is a text, or made from templates that the key leads
  to, resolved against objects of the story

The graph does not know the objects of the story. A key leads to all templates that its value may be made
from, on whatever object it is asked.
-/

namespace StoryLoom

/-! ## The graph -/

/-- Where the templates of a dictionary and a story stand. -/
inductive TemplateId
  | format (id : String)
  /-- The format of the values of a type. -/
  | typeFormat (type : String)
  | declaration
  | definition
  | call
  | code (id : CodeBlockId)
  deriving DecidableEq, Repr

/-- The template that stands at a place. -/
def Setting.template? (s : Setting) : TemplateId → Option Template
  | .format id => s.dictionary.format? id
  | .typeFormat type => (s.dictionary.type? type).map TypeEntry.format
  | .declaration => some s.dictionary.function.declaration
  | .definition => some s.dictionary.function.definition
  | .call => some s.dictionary.function.call
  | .code id => (s.model.codeBlock? id).map CodeBlock.code

/-- The templates that the value of a key may be made from. -/
def DataKey.Calls : DataKey → TemplateId → Prop
  | .code, .code _ => True
  | .value, .call => True
  | .formattedValue, .call => True
  | .formattedValue, .typeFormat _ => True
  | .subject, .call => True
  | .controlItFormat, .format _ => True
  | .declaration, .declaration => True
  | .definition, .definition => True
  | _, _ => False

mutual

/-- The templates that a piece leads to, what is inside it included. -/
def Fragment.Calls : Fragment → TemplateId → Prop
  | .literal _, _ => False
  | .reference label _, id => ∃ key, DataKey.parse? label = some key ∧ key.Calls id
  | .format name _, id => id = .format name
  | .scope _ _ body, id => Template.Calls body id
  | .series _ _ _ _ body, id => Template.Calls body id
  | .line body, id => Template.Calls body id
  | .indent body, id => Template.Calls body id
  | .conditional _ body, id => Template.Calls body id

def Template.Calls : Template → TemplateId → Prop
  | [], _ => False
  | f :: rest, id => f.Calls id ∨ Template.Calls rest id

end

namespace Setting

/-- The template at one place leads to that at another. -/
def Leads (s : Setting) (a b : TemplateId) : Prop :=
  ∃ template, s.template? a = some template ∧ template.Calls b

/-- No template leads back to itself. -/
def Acyclic (s : Setting) : Prop :=
  ∀ a, ¬ Relation.TransGen s.Leads a a

/-- Templates that lead to lower ones only never lead back. -/
theorem acyclic_of_rank {s : Setting} (rank : TemplateId → Nat)
    (lowers : ∀ a b, s.Leads a b → rank b < rank a) : s.Acyclic := by
  have lower : ∀ {a b}, Relation.TransGen s.Leads a b → rank b < rank a := by
    intro a b path
    induction path with
    | single edge => exact lowers _ _ edge
    | tail _ edge ih => exact Nat.lt_trans (lowers _ _ edge) ih
  intro a path
  exact Nat.lt_irrefl _ (lower path)

end Setting

/-! ## Computations -/

/-- A computation whose result has a property, and which does not fail for want of room. -/
structure Naming.Yields {α : Type} (good : α → Prop) (x : Naming α) : Prop where
  ok : ∀ n a next, x n = .ok a next → good a
  error : ∀ n e next, x n = .error e next → e.problem ≠ .endless

namespace Naming.Yields

variable {α β : Type} {good : α → Prop} {x : Naming α}

theorem pure {a : α} (h : good a) : Yields good (pure a) where
  ok := by
    intro n b next hb
    cases hb
    exact h
  error := by
    intro n e next he
    cases he

theorem throw {e : GenerationError} (h : e.problem ≠ .endless) : Yields good (throw e) where
  ok := by
    intro n a next ha
    cases ha
  error := by
    intro n e' next he
    cases he
    exact h

theorem bind {good' : β → Prop} {f : α → Naming β} (hx : Yields good x)
    (hf : ∀ a, good a → Yields good' (f a)) : Yields good' (x >>= f) where
  ok := by
    intro n b next h
    obtain ⟨a, middle, first, second⟩ := bind_eq_ok_iff.1 h
    exact (hf a (hx.ok n a middle first)).ok middle b next second
  error := by
    intro n e next h
    rcases bind_eq_error_iff.1 h with first | ⟨a, middle, first, second⟩
    · exact hx.error n e next first
    · exact (hf a (hx.ok n a middle first)).error middle e next second

theorem mapError {f : GenerationError → GenerationError} (hx : Yields good x)
    (hf : ∀ e, e.problem ≠ .endless → (f e).problem ≠ .endless) :
    Yields good (mapError f x) where
  ok := by
    intro n a next h
    exact hx.ok n a next (mapError_eq_ok_iff.1 h)
  error := by
    intro n e next h
    obtain ⟨cause, failed, rfl⟩ := mapError_eq_error_iff.1 h
    exact hf cause (hx.error n cause next failed)

theorem ofExcept {y : Except GenerationError α} (ok : ∀ a, y = .ok a → good a)
    (grounded : Grounded y) : Yields good (ofExcept y) := by
  cases y with
  | ok a => exact pure (ok a rfl)
  | error e => exact throw (grounded e rfl)

/-- A lookup of which only the failure matters. -/
theorem lookup {y : Except GenerationError α} (grounded : Grounded y) :
    Yields (fun _ => True) (Naming.ofExcept y) :=
  ofExcept (fun _ _ => trivial) grounded

/-- What is known of the value may be weakened. -/
theorem imp {good' : α → Prop} (hx : Yields good x) (h : ∀ a, good a → good' a) :
    Yields good' x where
  ok n a next found := h a (hx.ok n a next found)
  error := hx.error

/-- What follows a computation has to agree on good results only. -/
theorem bind_congr (hx : Yields good x) {f g : α → Naming β} (h : ∀ a, good a → f a = g a) :
    x >>= f = x >>= g := by
  funext n
  cases first : x n with
  | ok a middle => rw [bind_of_ok first, bind_of_ok first, h a (hx.ok n a middle first)]
  | error e middle => rw [bind_of_error first, bind_of_error first]

/-- A list of steps ends if each of its steps does. -/
theorem mapM {f : α → Naming β} (hf : ∀ a, Yields (fun _ => True) (f a)) (l : List α) :
    Yields (fun _ => True) (l.mapM f) := by
  induction l with
  | nil => exact pure trivial
  | cons a rest ih =>
    rw [List.mapM_cons]
    exact (hf a).bind fun b _ => ih.bind fun bs _ => pure trivial

end Naming.Yields

/-! ## Names -/

namespace Context

open Naming

variable {s : Setting} (c : Context) (legal : Option String)

theorem yields_missing {α : Type} {good : α → Prop} (what : String) :
    Yields good (throw (c.missing s what)) :=
  .throw (by simp)

theorem yields_refuse {good : Answer → Prop} (key : DataKey) :
    Yields good (c.refuse s key) :=
  .throw (by simp)

variable [PatternLibrary]

/-- The namer answers or refuses; it calls no template. -/
theorem yields_nameHere (identity : Identity) (text : String) (key : Option AliasKey) :
    Yields (fun _ => True) (c.nameHere s identity text key legal) := by
  have asked : Yields (fun _ => True) (s.nameOf identity text key legal) := by
    refine ⟨fun _ _ _ _ => trivial, ?_⟩
    intro n e next h
    have outcome := Setting.outcome_nameOf s identity text key legal n
    rw [h] at outcome
    cases outcome with
    | unreadable refused =>
      have plain : Plain none (s.legal legal) := s.plain_legal legal
      exact plain.grounded e refused
    | exhausted cause => simp
  refine asked.mapError fun e he => ?_
  -- Noting the context changes one kind of failure, and not to another kind.
  unfold GenerationError.inContext
  split
  · simp
  · exact he

theorem yields_componentName (k : Component) :
    Yields (fun _ => True) (c.componentName s k legal) := by
  unfold componentName
  split
  · exact (Yields.lookup (c.plain_mainBlock _).grounded).bind fun b _ => c.yields_nameHere legal _ _ _
  · exact c.yields_nameHere legal _ _ _

theorem yields_nameOfComponent (id : ComponentId) :
    Yields (fun _ => True) (c.nameOfComponent s id legal) := by
  refine (Yields.lookup (c.plain_enterComponent id).grounded).bind fun inner _ => ?_
  split
  · exact inner.yields_componentName legal _
  · exact .throw (by simp)

theorem yields_nameOfLine (id : LineId) :
    Yields (fun _ => True) (c.nameOfLine s id legal) := by
  refine (Yields.lookup (c.plain_enter (.line id)).grounded).bind fun inner _ => ?_
  split
  · exact inner.yields_nameHere legal _ _ _
  · exact .throw (by simp)

theorem yields_name : Yields (fun _ => True) (c.name s legal) := by
  unfold name
  split
  · exact c.yields_componentName legal _
  · exact c.yields_componentName legal _
  · exact c.yields_nameHere legal _ _ _
  · next view _ =>
    -- A value has the name of what it points at.
    cases view with
    | unbound => exact c.yields_missing "binding"
    | resource r => exact .pure trivial
    | reference k | function k | storyPoint k | uninitialized k =>
      exact c.yields_nameOfComponent legal k.id
    | dialogue l => exact c.yields_nameOfLine legal l.id
  · exact c.yields_nameHere legal _ _ _
  · exact .pure trivial

end Context

/-! ## Values -/

/-- A template that a key leads to, with an object of the story to resolve it against. -/
structure Part.Follows (s : Setting) (key : DataKey) (p : Part) : Prop where
  grounded : Grounded p.context
  stored : ∀ c, p.context = .ok c → c.focus.Stored s.model
  called : ∃ id, key.Calls id ∧ s.template? id = some p.template

/-- A text, or templates that a key leads to. -/
def Answer.Follows (s : Setting) (key : DataKey) : Answer → Prop
  | .text _ => True
  | .parts ps => ∀ p ∈ ps, p.Follows s key

/-- A key that leads to all that another one leads to. -/
theorem Answer.Follows.widen {s : Setting} {key wider : DataKey} {a : Answer}
    (h : a.Follows s key) (wide : ∀ id, key.Calls id → wider.Calls id) : a.Follows s wider := by
  cases a with
  | text t => trivial
  | parts ps =>
    intro p hp
    obtain ⟨id, calls, found⟩ := (h p hp).called
    exact ⟨(h p hp).grounded, (h p hp).stored, id, wide id calls, found⟩

namespace Context

open Naming

variable {s : Setting} {c : Context} {key : DataKey}

/-- An entered context is on an object of the story. -/
theorem stored_of_enter {element : Element} {inner : Context}
    (entered : c.enter s element = .ok inner) : inner.focus.Stored s.model := by
  obtain ⟨f, found, rfl⟩ := enter_eq_ok_iff.1 entered
  exact stored_of_focusOn found

/-- Entering an element stays inside the model. -/
theorem yields_enter (c : Context) (element : Element) :
    Yields (fun inner => inner.focus.Stored s.model) (Naming.ofExcept (c.enter s element)) :=
  .ofExcept (fun _ entered => stored_of_enter entered) (c.plain_enter element).grounded

/-- So does entering a scope: every scope leads to an entry of the model. -/
theorem yields_enterScope (c : Context) (label : String) (name : Option String) :
    Yields (fun inner => inner.focus.Stored s.model)
      (Naming.ofExcept (enterScope s c label name)) := by
  refine .ofExcept (fun inner entered => ?_) (plain_enterScope s c label name).grounded
  unfold enterScope at entered
  split at entered
  · cases entered
  · next key _ =>
    cases turned : c.scope s key name with
    | error e =>
      rw [turned] at entered
      cases entered
    | ok element =>
      rw [turned] at entered
      exact stored_of_enter entered

/-- A template put into an answer is one that the requested data calls. -/
theorem follows_part (stored : c.focus.Stored s.model) {template : Template}
    (called : ∃ id, key.Calls id ∧ s.template? id = some template) :
    (c.part template).Follows s key := by
  intro p hp
  rw [List.mem_singleton.1 hp]
  refine ⟨(Plain.ok c).grounded, ?_, called⟩
  rintro _ ⟨⟩
  exact stored

theorem yields_answer (t : String) : Yields (Answer.Follows s key) (answer t) :=
  .pure trivial

theorem yields_answerOf {t : Except GenerationError String} (h : Grounded t) :
    Yields (Answer.Follows s key) (answerOf t) :=
  (Yields.lookup h).bind fun _ _ => .pure trivial

theorem yields_answerName {x : Naming String} (h : Yields (fun _ => True) x) :
    Yields (Answer.Follows s key) (answerName x) :=
  h.bind fun _ _ => .pure trivial

/-- A format that is not empty is that of a type. -/
theorem template?_of_formatOf {type : Option String}
    (nonempty : ¬ (formatOf s type).isEmpty = true) :
    ∃ name, s.template? (.typeFormat name) = some (formatOf s type) := by
  unfold formatOf at nonempty ⊢
  cases found : type.bind s.dictionary.type? with
  | none => simp [found] at nonempty
  | some entry =>
    obtain ⟨name, -, known⟩ := Option.bind_eq_some_iff.1 found
    refine ⟨name, ?_⟩
    simp only [Setting.template?, known]
    rfl

theorem yields_fileData (c : Context) (key : DataKey) :
    Yields (Answer.Follows s key) (c.fileData s key) := by
  unfold fileData
  split
  · exact yields_answer _
  · split
    · exact yields_answer _
    · exact c.yields_missing "subject"
  · exact c.yields_refuse key

theorem yields_taskData (c : Context) (key : DataKey) (k : Component) (task : Task) :
    Yields (Answer.Follows s key) (c.taskData s key k task) := by
  unfold taskData
  split
  · exact yields_answer _
  · exact yields_answer _
  · exact yields_answerOf ((c.plain_lowerChance k).map _).grounded
  · exact yields_answerOf ((c.plain_lowerChance k).map _).grounded
  · exact c.yields_refuse key

/-- The code of a script is that of blocks of the story. -/
theorem follows_scriptCode (c : Context) (script : ScriptIt) :
    (c.scriptCode s script).Follows s .code := by
  intro p hp
  obtain ⟨b, hb, rfl⟩ := List.mem_map.1 hp
  have listed : b ∈ s.model.blocksOf script := (List.mem_filter.1 hb).1
  obtain ⟨id, -, hid⟩ := List.mem_filterMap.1 listed
  refine ⟨(c.plain_enter _).grounded, fun _ entered => stored_of_enter entered, .code id, trivial, ?_⟩
  simp only [Setting.template?, hid, Option.map_some]

theorem yields_lineData (stored : c.focus.Stored s.model) (key : DataKey) (l : DialogueLine) :
    Yields (Answer.Follows s key) (c.lineData s key l) := by
  unfold lineData
  split
  · exact yields_answer _
  · exact yields_answer _
  · dsimp only
    split
    · exact yields_answer _
    · next nonempty =>
      obtain ⟨name, found⟩ := template?_of_formatOf nonempty
      exact .pure (follows_part stored ⟨.typeFormat name, trivial, found⟩)
  · exact yields_answerOf (c.plain_codeSymbol _).grounded
  · exact yields_answer _
  · exact yields_answer _
  · exact yields_answer _
  · exact c.yields_refuse key

theorem yields_textData (c : Context) (key : DataKey) (t : String) :
    Yields (Answer.Follows s key) (c.textData s key t) := by
  unfold textData
  split
  · exact yields_answer _
  · exact yields_answer _
  · exact c.yields_refuse key

variable [PatternLibrary]

/-- The value of a binding is a text, a name, or a call of the script bound. -/
theorem yields_value (key : DataKey) (calls : key.Calls .call) (c : Context) (legal : Option String)
    (knowIt : Component) (view : BindingView) :
    Yields (Answer.Follows s key) (c.value s knowIt view legal) := by
  cases view with
  | unbound => exact c.yields_missing "binding"
  | resource r => exact yields_answerOf (plain_resourceText s _ r).grounded
  | reference k | storyPoint k | uninitialized k =>
    exact yields_answerName (c.yields_nameOfComponent legal k.id)
  | function script =>
    simp only [value, callOf]
    split
    · exact .throw (by simp)
    · exact (yields_enter c (.component script.id)).bind fun inner stored =>
        .pure (follows_part stored ⟨.call, calls, rfl⟩)
  | dialogue l => exact yields_answer _

theorem yields_bindingData (stored : c.focus.Stored s.model) (key : DataKey)
    (legal : Option String) (knowIt : Component) (view : BindingView) :
    Yields (Answer.Follows s key) (c.bindingData s key legal knowIt view) := by
  unfold bindingData
  split
  · exact yields_value .value trivial c legal knowIt view
  · unfold formattedValue
    dsimp only
    split
    · exact yields_value .formattedValue trivial c legal knowIt view
    · next nonempty =>
      obtain ⟨name, found⟩ := template?_of_formatOf nonempty
      exact .pure (follows_part stored ⟨.typeFormat name, trivial, found⟩)
  · exact yields_answerOf (c.plain_codeSymbol _).grounded
  · split
    · exact yields_answer _
    · exact c.yields_missing "template id"
  · exact yields_answer _
  · exact yields_answer _
  · exact c.yields_refuse _

theorem yields_componentValue (c : Context) (key : DataKey) (legal : Option String)
    (k : Component) : Yields (Answer.Follows s key) (c.componentValue s key legal k) := by
  unfold componentValue
  split
  · exact yields_answerName (c.yields_componentName legal k)
  · refine (yields_enter c (.binding k.id)).bind fun inner stored => ?_
    split
    · exact yields_bindingData stored key legal _ _
    · exact inner.yields_refuse key
  · exact c.yields_refuse key

/-- The subject of a block is asked for its value. -/
theorem yields_subjectValue (c : Context) (b : CodeBlock) (legal : Option String) :
    Yields (Answer.Follows s .subject) (c.subjectValue s b legal) := by
  have wide : ∀ id, DataKey.Calls .value id → DataKey.Calls .subject id := by
    intro id calls
    cases id with
    | call => trivial
    | format | typeFormat | declaration | definition | code => cases calls
  unfold subjectValue
  split
  · exact c.yields_missing "subject"
  · next id _ =>
    refine (yields_enter c (.component id)).bind fun inner _ => ?_
    split
    · exact (inner.yields_componentValue .value legal _).imp fun _ follows => follows.widen wide
    · exact inner.yields_refuse .value

/-- The templates in a script's data are its code, its format, and those of a function. -/
theorem yields_scriptData (stored : c.focus.Stored s.model) (key : DataKey)
    (legal : Option String) (script : ScriptIt) :
    Yields (Answer.Follows s key) (c.scriptData s key legal script) := by
  have main : Plain none (c.mainBlock s script) := c.plain_mainBlock script
  unfold scriptData
  split
  · exact yields_answerOf (main.bind fun b => c.plain_codeSymbol _).grounded
  · exact .pure (follows_scriptCode c script)
  · refine (Yields.lookup main.grounded).bind fun b _ => ?_
    split
    · exact yields_answer _
    · exact c.yields_missing _
  · exact (Yields.lookup main.grounded).bind fun b _ => c.yields_subjectValue b legal
  · exact yields_answerOf (main.bind fun b => .pure _).grounded
  · split
    · split
      · exact c.yields_missing "control format"
      · next id _ =>
        split
        · next template known => exact .pure (follows_part stored ⟨.format id, trivial, known⟩)
        · exact .throw (by simp)
    · exact c.yields_refuse _
  · exact .pure (follows_part stored ⟨.declaration, trivial, rfl⟩)
  · exact .pure (follows_part stored ⟨.definition, trivial, rfl⟩)
  · exact c.yields_refuse key

/-- Whatever a component answers, the templates in it are those its data calls. -/
theorem yields_componentData (stored : c.focus.Stored s.model) (key : DataKey)
    (legal : Option String) (k : Component) :
    Yields (Answer.Follows s key) (c.componentData s key legal k) := by
  unfold componentData
  split
  · exact c.yields_componentValue _ legal k
  · exact c.yields_componentValue _ legal k
  · exact yields_answer _
  · exact yields_answer _
  · exact c.yields_taskData _ k _
  · exact yields_scriptData stored _ legal _
  · exact yields_answerOf (c.plain_codeSymbol _).grounded
  · exact c.yields_componentValue _ legal k
  · exact c.yields_componentValue _ legal k
  · exact c.yields_componentValue _ legal k
  · exact c.yields_componentValue _ legal k
  · split
    · exact yields_answerName (c.yields_nameOfComponent legal _)
    · exact c.yields_missing "condition"
  · exact c.yields_refuse _

/-- A code block answers its code, its slot, its type or its subject. -/
theorem yields_blockData (c : Context) (key : DataKey) (legal : Option String) {b : CodeBlock}
    (stored : c.focus.Stored s.model) (focus : c.focus = .block b) :
    Yields (Answer.Follows s key) (c.blockData s key legal b) := by
  unfold blockData
  split
  · exact yields_answerOf (c.plain_codeSymbol _).grounded
  · obtain ⟨id, known⟩ : (Focus.block b).Stored s.model := focus ▸ stored
    refine .pure (follows_part stored ⟨.code id, trivial, ?_⟩)
    simp only [Setting.template?, known, Option.map_some]
  · exact yields_answer _
  · exact c.yields_subjectValue b legal
  · exact c.yields_refuse key

/-- Asked of an object of the story, the value of a key is made from templates that the key leads to. -/
theorem yields_data (stored : c.focus.Stored s.model) (key : DataKey) (legal : Option String) :
    Yields (Answer.Follows s key) (c.data s key legal) := by
  unfold data
  split
  · exact yields_answerName (c.yields_name legal)
  · exact yields_answer _
  · split
    · exact yields_answer _
    · exact c.yields_refuse _
  · exact (Yields.lookup c.plain_storyPoint.grounded).bind fun point _ =>
      yields_answerName (c.yields_nameOfComponent legal point.id)
  · split
    · exact c.yields_fileData key
    · exact yields_componentData stored key legal _
    · next b focus => exact c.yields_blockData key legal stored focus
    · exact yields_bindingData stored key legal _ _
    · exact yields_lineData stored key _
    · exact c.yields_textData key _

end Context
end StoryLoom
