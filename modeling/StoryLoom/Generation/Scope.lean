import StoryLoom.Generation.Context
import StoryLoom.Template.Vocabulary

/-!
# Scope — the object that a scope turns to

- `scriptParameter`, `sharedTaskChild`, `causeChild` : the cases with a choice
- `Context.scope` : the element of a key, asked of a context
-/

namespace StoryLoom
namespace Context

def demand (s : Setting) (c : Context) (what : String) (id : Option ComponentId) :
    Except GenerationError Element :=
  match id with
  | some id => .ok (.component id)
  | none => .error (c.missing s what)

/-- The first of some components with the demanded name. -/
def findNamed (s : Setting) (c : Context) (key : ScopeKey) (name : Option String)
    (candidates : List ComponentId) : Except GenerationError Element :=
  match name with
  | none => .error (c.missing s (key.label ++ " name"))
  | some name => c.demand s (key.label ++ " '" ++ name ++ "'") (s.model.findNamed? candidates name)

/-- The parameters that the game provides to the slot of a script's main block. -/
def slotParameters (s : Setting) (c : Context) (script : ScriptIt) :
    Except GenerationError (List ComponentId) := do
  let b ← c.mainBlock s script
  return (s.model.slot? b.slot).elim [] Slot.parameters

def cause (s : Setting) (c : Context) : Except GenerationError Component :=
  match c.chainStart?.bind (fun id => s.model.enclosing? id Component.isCause) with
  | some cause => .ok cause
  | none => .error (c.missing s "cause")

def causeChild (s : Setting) (c : Context) (key : ScopeKey) (place : Nat) :
    Except GenerationError Element := do
  let cause ← c.cause s
  c.demand s key.label cause.childIds[place]?

def party (s : Setting) (c : Context) (key : ScopeKey) (task : Task) (place : Nat) :
    Except GenerationError Element :=
  if task.roles.isSome then c.demand s key.label task.children[place]?
  else .error (c.missing s (key.label ++ " of a collaborative task"))

def blockSubject (s : Setting) (c : Context) (b : CodeBlock) : Except GenerationError Element :=
  c.demand s "subject" (s.model.subjectOf? b)

def scriptScope (s : Setting) (c : Context) (key : ScopeKey) (name : Option String)
    (component : Component) (script : ScriptIt) : Except GenerationError Element :=
  match key with
  | .argument => c.findNamed s key name (s.model.parametersOf component)
  | .slotParameter => do c.findNamed s key name (← c.slotParameters s script)
  | .subject => do c.blockSubject s (← c.mainBlock s script)
  | .mainCodeBlock => do return .codeBlock (← c.mainBlock s script).id
  | .cause => do return .component (← c.cause s).id
  | .activeChild => c.causeChild s key 0
  | .inactiveChild => c.causeChild s key 1
  | .alwaysChild => c.causeChild s key 2
  | _ => .error (c.unsupported s key.label)

def componentScope (s : Setting) (c : Context) (key : ScopeKey) (name : Option String)
    (component : Component) : Except GenerationError Element :=
  match component.kind with
  | .scriptIt script => c.scriptScope s key name component script
  | .askIt ask =>
    match key with
    | .ifChild => c.demand s "if branch" ask.ifChild
    | .elseChild => c.demand s "else branch" ask.elseChild
    | .condition => c.demand s "condition" ask.condition
    | _ => .error (c.unsupported s key.label)
  | .knowIt knowIt =>
    match key with
    | .binding => .ok (.binding component.id)
    | .dialogue =>
      match knowIt.binding with
      | .dialogue line => .ok (.line line)
      | _ => .error (c.missing s "dialogue binding")
    | _ => .error (c.unsupported s key.label)
  | .task task =>
    match key with
    | .initiator => c.party s key task 0
    | .responder => c.party s key task 1
    | .behaviour =>
      c.demand s "behaviour" ((s.model.enclosing? component.id
        (fun k => match k.kind with | .behaviour _ => true | _ => false)).map Component.id)
    | _ => .error (c.unsupported s key.label)
  | _ => .error (c.unsupported s key.label)

def blockScope (s : Setting) (c : Context) (key : ScopeKey) (name : Option String)
    (b : CodeBlock) : Except GenerationError Element :=
  match key with
  | .argument => c.findNamed s key name (s.model.argumentsOf b)
  | .subject => c.blockSubject s b
  | .cause => do return .component (← c.cause s).id
  | .activeChild => c.causeChild s key 0
  | .inactiveChild => c.causeChild s key 1
  | .alwaysChild => c.causeChild s key 2
  | _ => .error (c.unsupported s key.label)

def scope (s : Setting) (c : Context) (key : ScopeKey) (name : Option String) :
    Except GenerationError Element :=
  match key with
  | .owner => c.owner s
  | .start => .ok (.component s.model.root)
  | .storyPoint => do return .component (← c.storyPoint s).id
  | _ =>
    match c.focus with
    | .component component => c.componentScope s key name component
    | .block b => c.blockScope s key name b
    | .binding _ (.function script) =>
      match key with
      | .argument => c.findNamed s key name (s.model.parametersOf script)
      | _ => .error (c.unsupported s key.label)
    | .binding _ (.dialogue line) =>
      match key with
      | .dialogue => .ok (.line line.id)
      | _ => .error (c.unsupported s key.label)
    | .line line =>
      match key with
      | .audio => c.demand s "audio" line.audio
      | .image => c.demand s "image" line.image
      | _ => .error (c.unsupported s key.label)
    | _ => .error (c.unsupported s key.label)

end Context
end StoryLoom
