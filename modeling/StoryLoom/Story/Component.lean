import StoryLoom.Story.Binding

/-!
# Component — the nodes of an authored story

- `ComponentKind` : what a node is, with what belongs to it
- `Component`     : a node with its text and its owner
- `childIds`      : the structural children of a node
- `blockIds`      : the code blocks of a node
-/

namespace StoryLoom

inductive ScriptRole
  | cause
  | effect
  | control
  deriving DecidableEq, Repr

/-- A script that is made of code blocks. -/
structure ScriptIt where
  role : ScriptRole
  codeBlocks : List CodeBlockId := []
  children : List ComponentId := []
  /-- The format that renders a control script. -/
  controlFormat : Option String := none
  deriving DecidableEq, Repr

/-- The first code block carries the name, type and subject of a script. -/
def ScriptIt.mainBlock? (s : ScriptIt) : Option CodeBlockId :=
  s.codeBlocks.head?

structure KnowIt where
  types : List String := []
  binding : Binding := .unbound
  deriving DecidableEq, Repr

structure AskIt where
  condition : Option ComponentId := none
  ifChild : Option ComponentId := none
  elseChild : Option ComponentId := none
  deriving DecidableEq, Repr

/-- A point of the story's progress. -/
structure StoryPoint where
  children : List ComponentId := []
  successors : List ComponentId := []
  fanIn : Nat := 1
  deriving DecidableEq, Repr

/-- The names of the two parties of a shared task. -/
structure TaskRoles where
  initiator : String
  responder : String
  deriving DecidableEq, Repr

structure Task where
  children : List ComponentId := []
  successors : List ComponentId := []
  chance : UInt32 := 100
  roles : Option TaskRoles := none
  deriving DecidableEq, Repr

inductive ComponentKind
  | storyPoint (p : StoryPoint)
  | scriptIt (s : ScriptIt)
  | knowIt (k : KnowIt)
  | askIt (a : AskIt)
  | container (children : List ComponentId)
  | note
  | task (t : Task)
  | behaviour (children : List ComponentId)
  deriving DecidableEq, Repr

namespace ComponentKind

def name : ComponentKind → String
  | storyPoint _ => "story point"
  | scriptIt s =>
    match s.role with
    | .cause => "cause"
    | .effect => "effect"
    | .control => "control"
  | knowIt _ => "knowit"
  | askIt _ => "askit"
  | container _ => "container"
  | note => "note"
  | task _ => "task"
  | behaviour _ => "behaviour"

def childIds : ComponentKind → List ComponentId
  | storyPoint p => p.children
  | scriptIt s => s.children
  | knowIt _ => []
  | askIt a => a.ifChild.toList ++ a.elseChild.toList
  | container children => children
  | note => []
  | task t => t.children
  | behaviour children => children

/-- Whether a kind has a list of children. A branch has its two sides instead. -/
def holdsChildren : ComponentKind → Bool
  | storyPoint _ => true
  | scriptIt _ => true
  | knowIt _ => false
  | askIt _ => false
  | container _ => true
  | note => false
  | task _ => true
  | behaviour _ => true

/-- The kind with a further child at the end; `none` for a kind that has no list of children. -/
def addChild? (child : ComponentId) : ComponentKind → Option ComponentKind
  | storyPoint p => some (.storyPoint { p with children := p.children ++ [child] })
  | scriptIt s => some (.scriptIt { s with children := s.children ++ [child] })
  | knowIt _ => none
  | askIt _ => none
  | container children => some (.container (children ++ [child]))
  | note => none
  | task t => some (.task { t with children := t.children ++ [child] })
  | behaviour children => some (.behaviour (children ++ [child]))

end ComponentKind

structure Component where
  id : ComponentId
  text : String
  owner : Option ComponentId
  kind : ComponentKind
  deriving DecidableEq, Repr

namespace Component

def childIds (c : Component) : List ComponentId :=
  c.kind.childIds

def script? (c : Component) : Option ScriptIt :=
  match c.kind with
  | .scriptIt s => some s
  | _ => none

def blockIds (c : Component) : List CodeBlockId :=
  c.script?.elim [] ScriptIt.codeBlocks

def knowIt? (c : Component) : Option KnowIt :=
  match c.kind with
  | .knowIt k => some k
  | _ => none

def storyPoint? (c : Component) : Option StoryPoint :=
  match c.kind with
  | .storyPoint p => some p
  | _ => none

def task? (c : Component) : Option Task :=
  match c.kind with
  | .task t => some t
  | _ => none

def hasRole (role : ScriptRole) (c : Component) : Bool :=
  c.script?.any (fun s => s.role = role)

def isCause (c : Component) : Bool :=
  c.hasRole .cause

end Component
end StoryLoom
