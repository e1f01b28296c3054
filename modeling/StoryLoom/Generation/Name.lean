import StoryLoom.Generation.Scope

/-!
# Name — the names of the objects that contexts stand for

- `Naming`            : a computation that may give names; names given before a failure stay
- `Setting.legal`     : the pattern that new names must match
- `Setting.nameOf`    : the name of an identity, given on first request
- `Context.name`      : the name of the object of a context
-/

namespace StoryLoom

variable [PatternLibrary]

/-- A computation that may give names. Names given before a failure stay. -/
abbrev Naming := EStateM GenerationError Namer

namespace Naming

def ofExcept {α : Type} : Except GenerationError α → Naming α
  | .ok a => pure a
  | .error e => throw e

/-- What a namer does, with its failure as one of generation. -/
def ofGiving {α : Type} (x : Namer.Giving α) : Naming α :=
  x.adaptExcept fun cause => { problem := .namesExhausted cause none }

/-- A computation with its errors changed. The names it gave stay. -/
def mapError {α : Type} (f : GenerationError → GenerationError) (x : Naming α) : Naming α :=
  fun n =>
    match x n with
    | .ok a n => .ok a n
    | .error e n => .error (f e) n

end Naming

namespace Setting

def legal (s : Setting) (source : Option String) : Except GenerationError LegalPattern :=
  let source := source.getD s.namingPattern
  match LegalPattern.compile source with
  | .ok p => .ok p
  | .error cause => .error { problem := .badLegality source cause }

/-- The name of an identity, given on first request. A name given before needs no pattern. -/
def nameOf (s : Setting) (identity : Identity) (text : String) (key : Option AliasKey)
    (legal : Option String) : Naming String := do
  match (← get).nameOf? identity with
  | some name => return name
  | none =>
    let p ← Naming.ofExcept (s.legal legal)
    Naming.ofGiving (Namer.uniqueName identity text key p.accepts)

end Setting

namespace Context

def nameHere (s : Setting) (c : Context) (identity : Identity) (text : String)
    (key : Option AliasKey) (legal : Option String) : Naming String :=
  Naming.mapError (GenerationError.inContext (c.describe s)) (s.nameOf identity text key legal)

def blockName (s : Setting) (c : Context) (b : CodeBlock) (legal : Option String) :
    Naming String :=
  c.nameHere s (.codeBlock b.id) ((s.model.blockOwner? b).elim "" Component.text) none legal

/-- The name of a component. A script has the name of its main block. -/
def componentName (s : Setting) (c : Context) (component : Component) (legal : Option String) :
    Naming String :=
  match component.script? with
  | some script => do
    let b ← Naming.ofExcept (c.mainBlock s script)
    c.blockName s b legal
  | none =>
    c.nameHere s (.component component.id) component.text (AliasKey.of? s.model component.id) legal

def lineName (s : Setting) (c : Context) (line : DialogueLine) (legal : Option String) :
    Naming String :=
  c.nameHere s (.line line.id) line.text none legal

/-- The name of a component, asked for in its own context inside this one. -/
def nameOfComponent (s : Setting) (c : Context) (id : ComponentId) (legal : Option String) :
    Naming String := do
  let inner ← Naming.ofExcept (c.enterComponent s id)
  match inner.focus with
  | .component component => inner.componentName s component legal
  | _ => throw (inner.unsupported s DataKey.name.label)

def nameOfLine (s : Setting) (c : Context) (id : LineId) (legal : Option String) :
    Naming String := do
  let inner ← Naming.ofExcept (c.enter s (.line id))
  match inner.focus with
  | .line line => inner.lineName s line legal
  | _ => throw (inner.unsupported s DataKey.name.label)

def bindingName (s : Setting) (c : Context) (view : BindingView) (legal : Option String) :
    Naming String :=
  match view with
  | .unbound => throw (c.missing s "binding")
  | .resource r => pure r.name
  | .reference target => c.nameOfComponent s target.id legal
  | .function script => c.nameOfComponent s script.id legal
  | .storyPoint target => c.nameOfComponent s target.id legal
  | .uninitialized target => c.nameOfComponent s target.id legal
  | .dialogue line => c.nameOfLine s line.id legal

def name (s : Setting) (c : Context) (legal : Option String) : Naming String :=
  match c.focus with
  | .file root => c.componentName s root legal
  | .component component => c.componentName s component legal
  | .block b => c.blockName s b legal
  | .binding _ view => c.bindingName s view legal
  | .line line => c.lineName s line legal
  | .text t => pure t

end Context
end StoryLoom
