import StoryLoom.Dictionary.Escapes
import StoryLoom.Generation.Name
import StoryLoom.Generation.Series

/-!
# Data — the values that a reference can fetch

- `Part`, `Answer` : a value is a text, or templates still to be resolved
- `value`, `formattedValue` : what a variable's value looks like in code
- `Context.data`   : the value of a key, asked of a context

No value is resolved here: where a value is made from templates, they are handed out with the
contexts to resolve them against.
-/

namespace StoryLoom

variable [PatternLibrary]

/-- A template with the context to resolve it against. A context that cannot be entered fails only
when its turn comes. -/
structure Part where
  context : Except GenerationError Context
  template : Template

inductive Answer
  | text (t : String)
  | parts (ps : List Part)

namespace Context

def part (c : Context) (template : Template) : Answer :=
  .parts [⟨.ok c, template⟩]

def answer (t : String) : Naming Answer :=
  pure (.text t)

def answerOf (t : Except GenerationError String) : Naming Answer := do
  return .text (← Naming.ofExcept t)

def answerName (name : Naming String) : Naming Answer := do
  return .text (← name)

def refuse (s : Setting) (c : Context) (key : DataKey) : Naming Answer :=
  throw (c.unsupported s key.label)

/-! ## Types -/

def codeSymbol (s : Setting) (c : Context) (type : Option String) :
    Except GenerationError String :=
  match type with
  | none => .error (c.missing s "type")
  | some type =>
    match s.dictionary.type? type with
    | some entry => .ok entry.codeSymbol
    | none => .error { problem := .unknownType type (c.describe s) }

/-- The type of a variable's value: the first type of the variable, else that of the resource. -/
def bindingType? (knowIt : Component) (view : BindingView) : Option String :=
  (knowIt.knowIt?.bind (fun k => k.types.head?)).or
    (match view with
    | .resource r => r.types.head?
    | _ => none)

/-- The type that a dialogue line is rendered as. -/
def lineType? (s : Setting) (line : DialogueLine) : Option String :=
  (if line.isRoot then s.dictionary.dialogueType else none).or s.dictionary.dialogueLineType

/-- The template of formatted values of a type; empty if there is none. -/
def formatOf (s : Setting) (type : Option String) : Template :=
  (type.bind s.dictionary.type?).elim [] TypeEntry.format

/-! ## Values of variables -/

def resourceText (s : Setting) (type : Option String) (r : Resource) :
    Except GenerationError String :=
  match type.bind s.dictionary.type? with
  | none => .ok r.codeText
  | some entry =>
    match entry.legalValues with
    | none => .ok (Escapes.escapeValue r.codeText entry.escapes (fun _ => true))
    | some pattern =>
      match s.legal (some pattern) with
      | .ok p => .ok (Escapes.escapeValue r.codeText entry.escapes (fun ch => p.accepts [ch]))
      | .error e => .error e

def callOf (s : Setting) (c : Context) (script : Component) : Naming Answer :=
  if s.dictionary.function.call.isEmpty then throw (.unknownFormat "function call")
  else do
    let inner ← Naming.ofExcept (c.enterComponent s script.id)
    return inner.part s.dictionary.function.call

def value (s : Setting) (c : Context) (knowIt : Component) (view : BindingView)
    (legal : Option String) : Naming Answer :=
  match view with
  | .unbound => throw (c.missing s "binding")
  | .resource r => answerOf (resourceText s (bindingType? knowIt view) r)
  | .reference target => answerName (c.nameOfComponent s target.id legal)
  | .function script => c.callOf s script
  | .storyPoint target => answerName (c.nameOfComponent s target.id legal)
  | .uninitialized target => answerName (c.nameOfComponent s target.id legal)
  | .dialogue line => answer (toString line.id.number)

def formattedValue (s : Setting) (c : Context) (knowIt : Component) (view : BindingView)
    (legal : Option String) : Naming Answer :=
  let format := formatOf s (bindingType? knowIt view)
  if format.isEmpty then c.value s knowIt view legal else pure (c.part format)

def bindingData (s : Setting) (c : Context) (key : DataKey) (legal : Option String)
    (knowIt : Component) (view : BindingView) : Naming Answer :=
  match key, view with
  | .value, _ => c.value s knowIt view legal
  | .formattedValue, _ => c.formattedValue s knowIt view legal
  | .type, _ => answerOf (c.codeSymbol s (bindingType? knowIt view))
  | .templateId, .resource r =>
    match r.templateId with
    | some id => answer id
    | none => throw (c.missing s "template id")
  | .uniqueId, .storyPoint point => answer (toString point.id.number)
  | .uniqueId, .dialogue line => answer (toString line.id.number)
  | _, _ => c.refuse s key

/-- A value of a variable, asked of the context of its binding. -/
def knowItData (s : Setting) (c : Context) (key : DataKey) (legal : Option String)
    (knowIt : Component) : Naming Answer := do
  let inner ← Naming.ofExcept (c.enter s (.binding knowIt.id))
  match inner.focus with
  | .binding k view => inner.bindingData s key legal k view
  | _ => inner.refuse s key

/-- The value of a component: of a story point its name, of a variable what it is bound to. -/
def componentValue (s : Setting) (c : Context) (key : DataKey) (legal : Option String)
    (component : Component) : Naming Answer :=
  match component.kind with
  | .storyPoint _ => answerName (c.componentName s component legal)
  | .knowIt _ => c.knowItData s key legal component
  | _ => c.refuse s key

def subjectValue (s : Setting) (c : Context) (b : CodeBlock) (legal : Option String) :
    Naming Answer :=
  match s.model.subjectOf? b with
  | none => throw (c.missing s "subject")
  | some id => do
    let inner ← Naming.ofExcept (c.enterComponent s id)
    match inner.focus with
    | .component component => inner.componentValue s .value legal component
    | _ => inner.refuse s .value

/-! ## Numbers -/

/-- The place of a context's object among those listed with it. -/
def index? (s : Setting) (c : Context) : Option Nat :=
  match c.focus with
  | .block b =>
    ((s.model.blockOwner? b).bind Component.script?).bind fun script =>
      script.codeBlocks.idxOf? b.id
  | .line line =>
    (line.parent.bind s.model.line?).bind fun parent => parent.children.idxOf? line.id
  | focus =>
    focus.component?.bind fun component =>
      (component.owner.bind s.model.component?).bind fun owner =>
        (owner.childIds.idxOf? component.id).or
          ((s.model.parametersOf owner).idxOf? component.id)

/-- The sum of the chances of the tasks among some components. It wraps around at 32 bits. -/
def totalChance (s : Setting) (ids : List ComponentId) : UInt32 :=
  ((ids.filterMap s.model.component?).filterMap (fun k => k.task?.map Task.chance)).foldl (· + ·) 0

/-- The successors of the task around a context, if the component is among them. -/
def siblings? (c : Context) (component : Component) : Option (List ComponentId) :=
  match c.outer with
  | parent :: _ =>
    (parent.task?.map Task.successors).bind fun successors =>
      if successors.contains component.id then some successors else none
  | [] => none

/-- The chances of the tasks before a task in the series around it. -/
def lowerChance (s : Setting) (c : Context) (component : Component) :
    Except GenerationError UInt32 :=
  match c.siblings? component with
  | some successors => .ok (totalChance s (successors.takeWhile (· ≠ component.id)))
  | none => .error (c.missing s "enclosing task series")

/-! ## The values of each focus -/

/-- The values of the whole script that only it has. -/
def fileData (s : Setting) (c : Context) (key : DataKey) : Naming Answer :=
  match key with
  | .slot => answer s.location.slot
  | .subject =>
    match s.location.subject with
    | some subject => answer subject
    | none => throw (c.missing s "subject")
  | _ => c.refuse s key

def taskData (s : Setting) (c : Context) (key : DataKey) (component : Component) (task : Task) :
    Naming Answer :=
  match key with
  | .uniqueId => answer ("task" ++ toString component.id.number)
  | .probabilityCount => answer (toString (totalChance s task.successors))
  | .taskProbabilityLowerBound => answerOf ((c.lowerChance s component).map toString)
  | .taskProbabilityUpperBound =>
    answerOf ((c.lowerChance s component).map (fun n => toString (n + task.chance)))
  | _ => c.refuse s key

/-- The code of a script: that of its blocks at the location. -/
def scriptCode (s : Setting) (c : Context) (script : ScriptIt) : Answer :=
  .parts ((s.locatedBlocks script).map (fun b => ⟨c.enter s (.codeBlock b.id), b.code⟩))

def scriptData (s : Setting) (c : Context) (key : DataKey) (legal : Option String)
    (script : ScriptIt) : Naming Answer :=
  match key with
  | .type => answerOf do c.codeSymbol s (← c.mainBlock s script).types.head?
  | .code => pure (c.scriptCode s script)
  | .condition => do
    let b ← Naming.ofExcept (c.mainBlock s script)
    match (s.model.slot? b.slot).bind Slot.condition with
    | some condition => answer condition
    | none => throw (c.missing s ("condition of slot '" ++ b.slot ++ "'"))
  | .subject => do c.subjectValue s (← Naming.ofExcept (c.mainBlock s script)) legal
  | .slot => answerOf do return (← c.mainBlock s script).slot
  | .controlItFormat =>
    if script.role = .control then
      match script.controlFormat with
      | none => throw (c.missing s "control format")
      | some id =>
        match s.dictionary.format? id with
        | some template => pure (c.part template)
        | none => throw (.unknownFormat id)
    else c.refuse s key
  | .declaration => pure (c.part s.dictionary.function.declaration)
  | .definition => pure (c.part s.dictionary.function.definition)
  | _ => c.refuse s key

def componentData (s : Setting) (c : Context) (key : DataKey) (legal : Option String)
    (component : Component) : Naming Answer :=
  match component.kind, key with
  | .storyPoint _, .value => c.componentValue s key legal component
  | .storyPoint _, .formattedValue => c.componentValue s key legal component
  | .storyPoint _, .uniqueId => answer (toString component.id.number)
  | .storyPoint point, .fanIn => answer (toString point.fanIn)
  | .task task, _ => c.taskData s key component task
  | .scriptIt script, _ => c.scriptData s key legal script
  | .knowIt knowIt, .type => answerOf (c.codeSymbol s knowIt.types.head?)
  | .knowIt _, .value => c.componentValue s key legal component
  | .knowIt _, .formattedValue => c.componentValue s key legal component
  | .knowIt _, .templateId => c.componentValue s key legal component
  | .knowIt _, .uniqueId => c.componentValue s key legal component
  | .askIt ask, .condition =>
    match ask.condition with
    | some id => answerName (c.nameOfComponent s id legal)
    | none => throw (c.missing s "condition")
  | _, _ => c.refuse s key

def blockData (s : Setting) (c : Context) (key : DataKey) (legal : Option String)
    (b : CodeBlock) : Naming Answer :=
  match key with
  | .type => answerOf (c.codeSymbol s b.types.head?)
  | .code => pure (c.part b.code)
  | .slot => answer b.slot
  | .subject => c.subjectValue s b legal
  | _ => c.refuse s key

def lineData (s : Setting) (c : Context) (key : DataKey) (line : DialogueLine) : Naming Answer :=
  match key with
  | .value => answer (toString line.id.number)
  | .uniqueId => answer (toString line.id.number)
  | .formattedValue =>
    let format := formatOf s (lineType? s line)
    if format.isEmpty then answer (toString line.id.number) else pure (c.part format)
  | .type => answerOf (c.codeSymbol s (lineType? s line))
  | .text => answer line.text
  | .speaker => answer line.speaker.code
  | .enabled => answer (toString line.enabled)
  | _ => c.refuse s key

def textData (s : Setting) (c : Context) (key : DataKey) (t : String) : Naming Answer :=
  match key with
  | .value => answer t
  | .includeText => answer t
  | _ => c.refuse s key

/-- The value of a key. Names, texts, places and the story point can be asked of every context. -/
def data (s : Setting) (c : Context) (key : DataKey) (legal : Option String) : Naming Answer :=
  match key with
  | .name => answerName (c.name s legal)
  | .note => answer (c.focus.displayText s.model)
  | .index =>
    match c.index? s with
    | some place => answer (toString place)
    | none => c.refuse s key
  | .currentStoryPoint => do
    let point ← Naming.ofExcept (c.storyPoint s)
    answerName (c.nameOfComponent s point.id legal)
  | _ =>
    match c.focus with
    | .file _ => c.fileData s key
    | .component component => c.componentData s key legal component
    | .block b => c.blockData s key legal b
    | .binding knowIt view => c.bindingData s key legal knowIt view
    | .line line => c.lineData s key line
    | .text t => c.textData s key t

end Context
end StoryLoom
