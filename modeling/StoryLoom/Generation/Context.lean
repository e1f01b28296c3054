import StoryLoom.Dictionary.Basic
import StoryLoom.Generation.Error
import StoryLoom.Story.Place

/-!
# Context — the objects that a template is resolved against

- `Setting`     : what stays fixed during a pass
- `BindingView` : the value of a variable with the object it points at
- `Focus`       : the object that a context stands for
- `Context`     : a focus with the foci around it and the indentation
- `enter`       : the context of an element inside another
-/

namespace StoryLoom

/-- What stays fixed during a pass. -/
structure Setting where
  model : StoryModel
  dictionary : Dictionary
  location : Location
  namingPattern : String

/-- The value of a variable, with the object it points at. -/
inductive BindingView
  | unbound
  | resource (r : Resource)
  | reference (target : Component)
  | function (script : Component)
  | storyPoint (target : Component)
  | uninitialized (target : Component)
  | dialogue (line : DialogueLine)
  deriving DecidableEq, Repr

namespace BindingView

def kindName : BindingView → String
  | unbound => "unbound"
  | resource _ => "resource"
  | reference _ => "reference"
  | function _ => "function"
  | storyPoint _ => "story point"
  | uninitialized _ => "uninitialized"
  | dialogue _ => "dialogue"

def target? : BindingView → Option Component
  | unbound => none
  | resource _ => none
  | reference c => some c
  | function c => some c
  | storyPoint c => some c
  | uninitialized c => some c
  | dialogue _ => none

/-- The value of a binding; `none` if what it points at does not exist. -/
def of? (m : StoryModel) : Binding → Option BindingView
  | .unbound => some .unbound
  | .resource r => some (.resource r)
  | .reference id => (m.component? id).map .reference
  | .function id => (m.component? id).map .function
  | .storyPoint id => (m.component? id).map .storyPoint
  | .uninitialized id => (m.component? id).map .uninitialized
  | .dialogue id => (m.line? id).map .dialogue

end BindingView

inductive Focus
  /-- The root story point, seen as the whole script. -/
  | file (root : Component)
  | component (c : Component)
  | block (b : CodeBlock)
  /-- The value of a variable. -/
  | binding (knowIt : Component) (view : BindingView)
  | line (l : DialogueLine)
  | text (text : String)

namespace Focus

def component? : Focus → Option Component
  | file root => some root
  | component c => some c
  | block _ => none
  | binding _ _ => none
  | line _ => none
  | text _ => none

def element : Focus → Element
  | file root => .component root.id
  | component c => .component c.id
  | block b => .codeBlock b.id
  | binding knowIt _ => .binding knowIt.id
  | line l => .line l.id
  | text t => .text t

def describe (location : Location) : Focus → String
  | file root => "file context for '" ++ root.text ++ "' at " ++ location.describe
  | component c => c.kind.name ++ " context for '" ++ c.text ++ "'"
  | block b => "code block context for " ++ b.id.describe ++ " (" ++ b.slot ++ ")"
  | binding knowIt view => view.kindName ++ " binding context for '" ++ knowIt.text ++ "'"
  | line l => "dialogue line context for " ++ l.id.describe ++ " " ++ Text.quoted l.text
  | text t => "text context " ++ Text.quoted t

def displayText (m : StoryModel) : Focus → String
  | file root => root.text
  | component c => c.text
  | block b => (m.blockOwner? b).elim "" Component.text
  | binding knowIt view =>
    match view with
    | .unbound => knowIt.text
    | .resource r => r.name
    | .reference c => c.text
    | .function c => c.text
    | .storyPoint c => c.text
    | .uninitialized c => c.text
    | .dialogue l => l.text
  | line l => l.text
  | text t => t

/-- The story point of a focus on one, the file included. -/
def storyPoint? : Focus → Option Component
  | file root => some root
  | component c => if c.storyPoint?.isSome then some c else none
  | block _ => none
  | binding _ _ => none
  | line _ => none
  | text _ => none

def task? : Focus → Option Task
  | component c => c.task?
  | _ => none

end Focus

/-- An object to resolve against: the focus, the foci around it from the inside out, and the text in
front of each line. -/
structure Context where
  focus : Focus
  outer : List Focus := []
  indent : String := ""

namespace Context

def describe (s : Setting) (c : Context) : String :=
  c.focus.describe s.location

def missing (s : Setting) (c : Context) (what : String) : GenerationError :=
  .missing what (c.describe s)

def unsupported (s : Setting) (c : Context) (accessor : String) : GenerationError :=
  .unsupported accessor (c.describe s)

def inside (c : Context) (focus : Focus) : Context :=
  { focus := focus, outer := c.focus :: c.outer, indent := c.indent }

/-- The same context one level deeper. -/
def indented (s : Setting) (c : Context) : Context :=
  { c with indent := c.indent ++ s.dictionary.indent }

def root (s : Setting) : Except GenerationError Context :=
  match s.model.component? s.model.root with
  | none => .error (.dangling (.component s.model.root))
  | some c =>
    if c.storyPoint?.isSome then .ok { focus := .file c }
    else .error (.missing "root story point" c.text)

def focusOn (s : Setting) (c : Context) (element : Element) : Except GenerationError Focus :=
  match element with
  | .component id =>
    match s.model.component? id with
    | some target => .ok (.component target)
    | none => .error (.dangling element)
  | .codeBlock id =>
    match s.model.codeBlock? id with
    | some b => .ok (.block b)
    | none => .error (.dangling element)
  | .binding id =>
    match s.model.component? id with
    | none => .error (.dangling element)
    | some knowIt =>
      match knowIt.knowIt? with
      | none => .error (c.missing s "knowit")
      | some k =>
        match BindingView.of? s.model k.binding with
        | some view => .ok (.binding knowIt view)
        | none => .error (.dangling element)
  | .line id =>
    match s.model.line? id with
    | some l => .ok (.line l)
    | none => .error (.dangling element)
  | .text t => .ok (.text t)

def enter (s : Setting) (c : Context) (element : Element) : Except GenerationError Context :=
  (c.focusOn s element).map c.inside

def enterComponent (s : Setting) (c : Context) (id : ComponentId) :
    Except GenerationError Context :=
  c.enter s (.component id)

/-! ## What surrounds a context -/

def owner (s : Setting) (c : Context) : Except GenerationError Element :=
  match c.outer with
  | parent :: _ => .ok parent.element
  | [] => .error { problem := .noOwner (c.describe s) }

/-- The component from which the owner chain of a context starts. -/
def chainStart? (c : Context) : Option ComponentId :=
  match c.focus with
  | .block b => b.owner
  | .binding knowIt _ => some knowIt.id
  | focus => focus.component?.map Component.id

/-- The nearest story point around a context; failing that, the nearest on the owner chain. -/
def storyPoint? (s : Setting) (c : Context) : Option Component :=
  match (c.focus :: c.outer).findSome? Focus.storyPoint? with
  | some point => some point
  | none =>
    c.chainStart?.bind fun id => s.model.enclosing? id (fun k => k.storyPoint?.isSome)

def storyPoint (s : Setting) (c : Context) : Except GenerationError Component :=
  match c.storyPoint? s with
  | some point => .ok point
  | none => .error (c.missing s "enclosing story point")

def mainBlock (s : Setting) (c : Context) (script : ScriptIt) :
    Except GenerationError CodeBlock :=
  match s.model.mainBlock? script with
  | some b => .ok b
  | none => .error (c.missing s "main code block")

def isTarget (c : Context) (target : FormatTarget) : Bool :=
  match c.focus with
  | .file _ => target = .storyPoint
  | .line _ => target = .dialogueLine
  | .component k =>
    match k.kind with
    | .storyPoint _ => target = .storyPoint
    | .scriptIt script =>
      target = .scriptIt ||
        (match script.role with
        | .cause => target = .cause
        | .effect => target = .effect
        | .control => target = .controlIt)
    | .knowIt _ => target = .knowIt
    | .askIt _ => target = .askIt
    | .container _ => target = .container
    | .note => target = .note
    | .task _ => target = .task
    | .behaviour _ => target = .behaviour
  | _ => false

end Context
end StoryLoom
