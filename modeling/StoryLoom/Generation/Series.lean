import StoryLoom.Generation.Scope

/-!
# Series — the collections that a context offers

- `locatedCauses`, `fileScripts`, `fileBlocks` : the scripts and code of a whole location
- `Context.series`    : the elements of a collection
- `Context.condition` : the facts that a context knows of itself
-/

namespace StoryLoom

namespace Setting

/-- The blocks of a script that add code at the location. -/
def locatedBlocks (s : Setting) (script : ScriptIt) : List CodeBlock :=
  (s.model.blocksOf script).filter (fun b => s.model.appliesAt b s.location)

def locatedCauses (s : Setting) : List Component :=
  s.model.causes.filter (fun c => s.model.mainLocation? c = some s.location)

/-- A cause followed by the scripts below it. -/
def scriptsOf (s : Setting) (cause : Component) : List Component :=
  cause :: ((s.model.descendants cause.id).filterMap s.model.component?).filter
    (fun c => c.script?.isSome)

/-- The causes of the location, each followed by the scripts below it, each script once. -/
def fileScripts (s : Setting) : List Component :=
  (s.locatedCauses.flatMap s.scriptsOf).eraseDupsBy (fun a b => a.id = b.id)

def fileBlocks (s : Setting) : List CodeBlock :=
  (s.fileScripts.filterMap Component.script?).flatMap s.locatedBlocks

def knowItsAmong (s : Setting) (ids : List ComponentId) : List ComponentId :=
  ids.filter (fun id => (s.model.knowIt? id).isSome)

/-- The causes that are copies of the same library code at the same location. -/
def copiesOf (s : Setting) (source : String) (location : Location) : List Component :=
  s.model.causes.filter (fun c =>
    (c.script?.bind s.model.mainBlock?).any
      (fun b => b.source = some source && s.model.locationOf b = location))

end Setting

def componentElements (ids : List ComponentId) : List Element :=
  ids.map .component

/-- Components that were looked up already, as elements again. -/
def elementsOf (components : List Component) : List Element :=
  components.map (fun c => .component c.id)

def lineElements (ids : List LineId) : List Element :=
  ids.map .line

def blockElements (blocks : List CodeBlock) : List Element :=
  blocks.map (fun b => .codeBlock b.id)

def includeElements (blocks : List CodeBlock) : List Element :=
  (blocks.flatMap CodeBlock.includes).map .text

namespace Context

/-- The causes like the one of a context. One without a source is like itself only. -/
def identicalCauses (s : Setting) (c : Context) (cause : Component) (script : ScriptIt) :
    Except GenerationError (List Element) := do
  let main ← c.mainBlock s script
  match main.source with
  | none => return [.component cause.id]
  | some source => return elementsOf (s.copiesOf source (s.model.locationOf main))

/-- The collections that file and story point share. -/
def placeSeries? (s : Setting) (key : SeriesKey) : Option (List Element) :=
  match key with
  | .storyPoints => some (componentElements s.model.storyPoints)
  | .orderedStoryPoints => some (componentElements s.model.orderedStoryPoints)
  | .scriptIts => some (elementsOf s.fileScripts)
  | .causes => some (elementsOf (s.fileScripts.filter (Component.hasRole .cause)))
  | .effects => some (elementsOf (s.fileScripts.filter (Component.hasRole .effect)))
  | .codeBlocks => some (blockElements s.fileBlocks)
  | .includes => some (includeElements s.fileBlocks)
  | _ => none

def fileSeries (s : Setting) (c : Context) (key : SeriesKey) (root : Component) :
    Except GenerationError (List Element) :=
  match key with
  | .children => .ok (componentElements root.childIds)
  | .allVariables =>
    .ok (componentElements (s.knowItsAmong
      (s.locatedCauses.flatMap (fun cause => s.model.descendants cause.id))))
  | _ =>
    match placeSeries? s key with
    | some elements => .ok elements
    | none => .error (c.unsupported s key.label)

def scriptSeries (s : Setting) (c : Context) (key : SeriesKey) (component : Component)
    (script : ScriptIt) : Except GenerationError (List Element) :=
  match key with
  | .parameters => .ok (componentElements (s.model.parametersOf component))
  | .arguments => .ok (componentElements (s.model.parametersOf component))
  | .parametersWithSlot => do
    return componentElements (s.model.parametersOf component ++ (← c.slotParameters s script))
  | .slotParameters => do return componentElements (← c.slotParameters s script)
  | .allVariables =>
    .ok (componentElements ((s.locatedBlocks script).flatMap CodeBlock.parameters).eraseDups)
  | .implicits => do return componentElements (← c.mainBlock s script).implicits
  | .codeBlocks => .ok (blockElements (s.locatedBlocks script))
  | .includes => .ok (includeElements (s.locatedBlocks script))
  | .children => .ok (componentElements script.children)
  | .identicalCauses =>
    if script.role = .cause then c.identicalCauses s component script
    else .error (c.unsupported s key.label)
  | _ => .error (c.unsupported s key.label)

/-- What a variable's value depends on. -/
def bindingVariables (s : Setting) (binding : Binding) : List ComponentId :=
  match binding with
  | .function id => (s.model.component? id).elim [] s.model.parametersOf
  | _ => binding.target?.toList

def componentSeries (s : Setting) (c : Context) (key : SeriesKey) (component : Component) :
    Except GenerationError (List Element) :=
  match component.kind, key with
  | .scriptIt script, _ => c.scriptSeries s key component script
  | .storyPoint _, .children => .ok (componentElements component.childIds)
  | .storyPoint _, .allVariables =>
    .ok (componentElements (s.knowItsAmong (s.model.descendants component.id)))
  | .storyPoint _, .parentNodes => .ok (componentElements (s.model.parentsOf component.id))
  | .storyPoint point, .childrenNodes => .ok (componentElements point.successors)
  | .storyPoint _, _ =>
    match placeSeries? s key with
    | some elements => .ok elements
    | none => .error (c.unsupported s key.label)
  | .knowIt knowIt, .allVariables => .ok (componentElements (bindingVariables s knowIt.binding))
  | .askIt _, .children => .ok (componentElements component.childIds)
  | .askIt ask, .allVariables => .ok (componentElements ask.condition.toList)
  | .container _, .children => .ok (componentElements component.childIds)
  | .behaviour _, .children => .ok (componentElements component.childIds)
  | .container _, .allVariables =>
    .ok (componentElements (s.knowItsAmong (s.model.descendants component.id)))
  | .behaviour _, .allVariables =>
    .ok (componentElements (s.knowItsAmong (s.model.descendants component.id)))
  | .task _, .children => .ok (componentElements component.childIds)
  | .task task, .childrenNodes => .ok (componentElements task.successors)
  | _, _ => .error (c.unsupported s key.label)

def blockSeries (s : Setting) (c : Context) (key : SeriesKey) (b : CodeBlock) :
    Except GenerationError (List Element) :=
  match key with
  | .parameters => .ok (componentElements b.parameters)
  | .implicits => .ok (componentElements b.implicits)
  | .includes => .ok (includeElements [b])
  | .children => .ok (componentElements ((s.model.blockOwner? b).elim [] Component.childIds))
  | .allVariables =>
    .ok (componentElements (s.knowItsAmong (b.owner.elim [] s.model.descendants)))
  | _ => .error (c.unsupported s key.label)

def series (s : Setting) (c : Context) (key : SeriesKey) :
    Except GenerationError (List Element) :=
  match c.focus with
  | .file root => c.fileSeries s key root
  | .component component => c.componentSeries s key component
  | .block b => c.blockSeries s key b
  | .binding _ (.function script) =>
    match key with
    | .arguments => .ok (componentElements (s.model.parametersOf script))
    | .parameters => .ok (componentElements (s.model.parametersOf script))
    | _ => .error (c.unsupported s key.label)
  | .binding _ (.dialogue line) =>
    match key with
    | .orderedDialogueLines => .ok (lineElements (s.model.orderedLines line.id))
    | _ => .error (c.unsupported s key.label)
  | .line line =>
    match key with
    | .childLines => .ok (lineElements line.children)
    | .orderedDialogueLines => .ok (lineElements (s.model.orderedLines line.id))
    | _ => .error (c.unsupported s key.label)
  | _ => .error (c.unsupported s key.label)

/-! ## Facts -/

/-- How many objects follow a component: successors of story points and tasks, children of others. -/
def followerCount (component : Component) : Nat :=
  match component.kind with
  | .storyPoint point => point.successors.length
  | .task task => task.successors.length
  | kind => kind.childIds.length

def condition (s : Setting) (c : Context) (key : ConditionKey) : Except GenerationError Bool :=
  match key, c.focus with
  | .isLastTask, .component component =>
    match component.task? with
    | some task => .ok task.successors.isEmpty
    | none => .error (c.unsupported s key.label)
  | .hasMultipleChildren, .file root => .ok (1 < followerCount root)
  | .hasMultipleChildren, .component component => .ok (1 < followerCount component)
  | .hasMultipleChildren, .line line => .ok (1 < line.children.length)
  | _, _ => .error (c.unsupported s key.label)

end Context
end StoryLoom
