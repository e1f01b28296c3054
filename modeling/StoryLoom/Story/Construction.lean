import StoryLoom.Story.Model

/-!
# Construction — building a story step by step

- `start`     : a story of one story point
- `Edit`      : a change of a story in place that may be refused
- `addDetached`, `addStoryPoint`, `addChild`, `addOwned` : further components
- `addCodeBlock`, `addParameter`, `addImplicit`          : code blocks and their variables
- `addDialogueRoot`, `addDialogueReply`     : dialogue lines
- `link`, `setBinding`, `setKind`, `setSlot`: changes
- `Operation` : one of these steps with what is passed to it

An edit that adds an object yields its number. A new number is one above the largest in use. What an
edit has written before it is refused stays in the story. As functions, edits yield no story where they
are refused.
-/

namespace StoryLoom
namespace StoryModel

def start (text : String) : StoryModel where
  root := ⟨0⟩
  components := Table.ofList [(⟨0⟩, ⟨⟨0⟩, text, none, .storyPoint {}⟩)]

/-! ## Numbers -/

/-- One above the largest of some numbers. -/
def fresh (numbers : List Nat) : Nat :=
  numbers.foldl (fun n k => max n (k + 1)) 0

def nextComponentId (m : StoryModel) : ComponentId :=
  ⟨fresh (m.components.keys.map ComponentId.number)⟩

def nextCodeBlockId (m : StoryModel) : CodeBlockId :=
  ⟨fresh (m.codeBlocks.keys.map CodeBlockId.number)⟩

def nextLineId (m : StoryModel) : LineId :=
  ⟨fresh (m.lines.keys.map LineId.number)⟩

/-- The fresh number is larger than all. -/
theorem lt_fresh {numbers : List Nat} {k : Nat} (h : k ∈ numbers) : k < fresh numbers := by
  -- The fold never falls below where it started, and passes every number on its way.
  have grows : ∀ (l : List Nat) (n : Nat), n ≤ l.foldl (fun n k => max n (k + 1)) n := by
    intro l
    induction l with
    | nil => exact fun n => Nat.le_refl n
    | cons a rest ih => exact fun n => Nat.le_trans (Nat.le_max_left n (a + 1)) (ih _)
  obtain ⟨before, behind, rfl⟩ := List.append_of_mem h
  rw [fresh, List.foldl_append, List.foldl_cons]
  exact Nat.lt_of_lt_of_le (Nat.lt_of_lt_of_le (Nat.lt_succ_self k) (Nat.le_max_right _ _))
    (grows behind _)

variable {m : StoryModel}

/-- The next number of a component is above all in use. -/
theorem lt_nextComponentId {id : ComponentId} {c : Component} (h : m.component? id = some c) :
    id.number < m.nextComponentId.number := by
  have stored : id ∈ m.components.keys :=
    List.mem_map.2 ⟨(id, c), Table.get?_eq_some_iff.1 h, rfl⟩
  exact lt_fresh (List.mem_map.2 ⟨id, stored, rfl⟩)

/-- The next number of a line is above all in use. -/
theorem lt_nextLineId {id : LineId} {l : DialogueLine} (h : m.line? id = some l) :
    id.number < m.nextLineId.number := by
  have stored : id ∈ m.lines.keys :=
    List.mem_map.2 ⟨(id, l), Table.get?_eq_some_iff.1 h, rfl⟩
  exact lt_fresh (List.mem_map.2 ⟨id, stored, rfl⟩)

/-- So no component has the next id. -/
theorem component?_nextComponentId : m.component? m.nextComponentId = none := by
  cases h : m.component? m.nextComponentId with
  | none => rfl
  | some c => exact absurd (lt_nextComponentId h) (Nat.lt_irrefl _)

/-- Nor has a block the next one for blocks. -/
theorem codeBlock?_nextCodeBlockId : m.codeBlock? m.nextCodeBlockId = none := by
  refine Table.get?_eq_none_iff.2 fun stored => ?_
  have used : m.nextCodeBlockId.number ∈ m.codeBlocks.keys.map CodeBlockId.number :=
    List.mem_map_of_mem stored
  exact Nat.lt_irrefl _ (lt_fresh used)

/-- Nor has a line. -/
theorem line?_nextLineId : m.line? m.nextLineId = none := by
  cases h : m.line? m.nextLineId with
  | none => rfl
  | some l => exact absurd (lt_nextLineId h) (Nat.lt_irrefl _)

/-! ## Steps that are never refused -/

def putComponent (m : StoryModel) (id : ComponentId) (c : Component) : StoryModel :=
  { m with components := m.components.insert id c }

def putBlock (m : StoryModel) (id : CodeBlockId) (b : CodeBlock) : StoryModel :=
  { m with codeBlocks := m.codeBlocks.insert id b }

def putLine (m : StoryModel) (id : LineId) (l : DialogueLine) : StoryModel :=
  { m with lines := m.lines.insert id l }

/-- Add a component with an owner or none. -/
def insertComponent (m : StoryModel) (owner : Option ComponentId) (text : String)
    (kind : ComponentKind) : StoryModel × ComponentId :=
  let id := m.nextComponentId
  (m.putComponent id ⟨id, text, owner, kind⟩, id)

/-- Add a component without an owner, such as a parameter of a slot. -/
def addDetached (m : StoryModel) (text : String) (kind : ComponentKind) :
    StoryModel × ComponentId :=
  m.insertComponent none text kind

def addStoryPoint (m : StoryModel) (text : String) (fanIn : Nat) : StoryModel × ComponentId :=
  m.insertComponent none text (.storyPoint { fanIn := fanIn })

def setSlot (m : StoryModel) (name : String) (slot : Slot) : StoryModel :=
  { m with slots := m.slots.insert name slot }

def addDialogueRoot (m : StoryModel) (text : String) (speaker : Speaker) : StoryModel × LineId :=
  let id := m.nextLineId
  (m.putLine id { id := id, text := text, speaker := speaker }, id)

end StoryModel

/-! ## Edits -/

/-- A change of a story in place. What is written before a refusal stays. -/
abbrev Edit := EStateM ModelError StoryModel

namespace Edit

variable {α : Type}

def always (step : StoryModel → StoryModel × α) : Edit α :=
  modifyGet fun m => ((step m).2, (step m).1)

/-- An edit as a function: what it yields with the story after it, or why it is refused. -/
def on (x : Edit α) (m : StoryModel) : Except ModelError (StoryModel × α) :=
  match x m with
  | .ok a m => .ok (m, a)
  | .error e _ => .error e

def component (id : ComponentId) : Edit Component := do
  match (← get).component? id with
  | some c => return c
  | none => throw (.unknownComponent id)

def codeBlock (id : CodeBlockId) : Edit CodeBlock := do
  match (← get).codeBlock? id with
  | some b => return b
  | none => throw (.unknownCodeBlock id)

def line (id : LineId) : Edit DialogueLine := do
  match (← get).line? id with
  | some l => return l
  | none => throw (.unknownLine id)

/-! ### Components -/

def setKind (id : ComponentId) (kind : ComponentKind) : Edit Unit := do
  let c ← component id
  modify fun m => m.putComponent id { c with kind := kind }

/-- Note a child at the end of a component's list, if it has one. -/
def noteChild (parent child : ComponentId) : Edit Unit := do
  let p ← component parent
  match p.kind.addChild? child with
  | some kind => setKind parent kind
  | none => return ()

def addChild (parent : ComponentId) (text : String) (kind : ComponentKind) : Edit ComponentId := do
  let p ← component parent
  if p.kind.holdsChildren then
    let id ← always fun m => m.insertComponent (some parent) text kind
    noteChild parent id
    return id
  else throw (.notAContainer parent)

/-- Add a component that has an owner but is not among its children. -/
def addOwned (owner : ComponentId) (text : String) (kind : ComponentKind) : Edit ComponentId := do
  let _ ← component owner
  always fun m => m.insertComponent (some owner) text kind

def link (source target : ComponentId) : Edit Unit := do
  let _ ← component target
  let c ← component source
  match c.kind with
  | .storyPoint p => setKind source (.storyPoint { p with successors := p.successors ++ [target] })
  | .task t => setKind source (.task { t with successors := t.successors ++ [target] })
  | _ => throw (.wrongKind source "story point or task")

def setBinding (id : ComponentId) (binding : Binding) : Edit Unit := do
  let c ← component id
  match c.kind with
  | .knowIt k => setKind id (.knowIt { k with binding := binding })
  | _ => throw (.wrongKind id "knowit")

/-! ### Code blocks -/

/-- Attach a code block to a script. The first one attached is the script's main block. -/
def addCodeBlock (script : ComponentId) (block : CodeBlock) : Edit CodeBlockId := do
  let id := (← get).nextCodeBlockId
  let c ← component script
  match c.kind with
  | .scriptIt s =>
    setKind script (.scriptIt { s with codeBlocks := s.codeBlocks ++ [id] })
    modify fun m => m.putBlock id { block with id := id, owner := some script }
    return id
  | _ => throw (.wrongKind script "script")

/-- Add a variable owned by the script of a code block, and note it in the block. -/
def addVariable (block : CodeBlockId) (text : String) (knowIt : KnowIt)
    (note : ComponentId → CodeBlock → CodeBlock) : Edit ComponentId := do
  let b ← codeBlock block
  let id ← always fun m => m.insertComponent b.owner text (.knowIt knowIt)
  modify fun m => { m with codeBlocks := m.codeBlocks.modify block (note id) }
  return id

def addParameter (block : CodeBlockId) (text : String) (knowIt : KnowIt) : Edit ComponentId :=
  addVariable block text knowIt fun id b => { b with parameters := b.parameters ++ [id] }

def addImplicit (block : CodeBlockId) (text : String) (knowIt : KnowIt) : Edit ComponentId :=
  addVariable block text knowIt fun id b => { b with implicits := b.implicits ++ [id] }

/-! ### Dialogue lines -/

/-- Add a reply, spoken by the other party, to a line. -/
def addDialogueReply (parent : LineId) (text : String) : Edit LineId := do
  let p ← line parent
  let id := (← get).nextLineId
  modify fun m => m.putLine id
    { id := id, text := text, speaker := p.speaker.other, parent := some parent }
  modify fun m =>
    { m with lines := m.lines.modify parent fun l => { l with children := l.children ++ [id] } }
  return id

end Edit

/-! ## Edits as functions -/

namespace StoryModel

def setKind (m : StoryModel) (id : ComponentId) (kind : ComponentKind) :
    Except ModelError StoryModel :=
  ((Edit.setKind id kind).on m).map Prod.fst

def addChild (m : StoryModel) (parent : ComponentId) (text : String) (kind : ComponentKind) :
    Except ModelError (StoryModel × ComponentId) :=
  (Edit.addChild parent text kind).on m

/-- Add a component that has an owner but is not among its children. -/
def addOwned (m : StoryModel) (owner : ComponentId) (text : String) (kind : ComponentKind) :
    Except ModelError (StoryModel × ComponentId) :=
  (Edit.addOwned owner text kind).on m

def link (m : StoryModel) (source target : ComponentId) : Except ModelError StoryModel :=
  ((Edit.link source target).on m).map Prod.fst

def setBinding (m : StoryModel) (id : ComponentId) (binding : Binding) :
    Except ModelError StoryModel :=
  ((Edit.setBinding id binding).on m).map Prod.fst

/-- Attach a code block to a script. The first one attached is the script's main block. -/
def addCodeBlock (m : StoryModel) (script : ComponentId) (block : CodeBlock) :
    Except ModelError (StoryModel × CodeBlockId) :=
  (Edit.addCodeBlock script block).on m

def addParameter (m : StoryModel) (block : CodeBlockId) (text : String) (knowIt : KnowIt) :
    Except ModelError (StoryModel × ComponentId) :=
  (Edit.addParameter block text knowIt).on m

def addImplicit (m : StoryModel) (block : CodeBlockId) (text : String) (knowIt : KnowIt) :
    Except ModelError (StoryModel × ComponentId) :=
  (Edit.addImplicit block text knowIt).on m

/-- Add a reply, spoken by the other party, to a line. -/
def addDialogueReply (m : StoryModel) (parent : LineId) (text : String) :
    Except ModelError (StoryModel × LineId) :=
  (Edit.addDialogueReply parent text).on m

end StoryModel

/-! ## Steps of a construction -/

/-- A step of a construction with what is passed to it. -/
inductive Operation
  | addChild (parent : ComponentId) (text : String) (kind : ComponentKind)
  | addOwned (owner : ComponentId) (text : String) (kind : ComponentKind)
  | addDetached (text : String) (kind : ComponentKind)
  | addStoryPoint (text : String) (fanIn : Nat)
  | addCodeBlock (script : ComponentId) (block : CodeBlock)
  | addParameter (block : CodeBlockId) (text : String) (knowIt : KnowIt)
  | addImplicit (block : CodeBlockId) (text : String) (knowIt : KnowIt)
  | link (source target : ComponentId)
  | setBinding (id : ComponentId) (binding : Binding)
  | setSlot (name : String) (slot : Slot)
  | addDialogueRoot (text : String) (speaker : Speaker)
  | addDialogueReply (parent : LineId) (text : String)

/-- The edit that a step stands for. -/
def Operation.edit : Operation → Edit Unit
  | addChild parent text kind => discard (Edit.addChild parent text kind)
  | addOwned owner text kind => discard (Edit.addOwned owner text kind)
  | addDetached text kind => discard (Edit.always fun m => m.addDetached text kind)
  | addStoryPoint text fanIn => discard (Edit.always fun m => m.addStoryPoint text fanIn)
  | addCodeBlock script block => discard (Edit.addCodeBlock script block)
  | addParameter block text knowIt => discard (Edit.addParameter block text knowIt)
  | addImplicit block text knowIt => discard (Edit.addImplicit block text knowIt)
  | link source target => Edit.link source target
  | setBinding id binding => Edit.setBinding id binding
  | setSlot name slot => modify fun m => m.setSlot name slot
  | addDialogueRoot text speaker => discard (Edit.always fun m => m.addDialogueRoot text speaker)
  | addDialogueReply parent text => discard (Edit.addDialogueReply parent text)

namespace StoryModel

/-- The story after a step, also after one that is refused. -/
def after (m : StoryModel) (op : Operation) : StoryModel :=
  match op.edit m with
  | .ok _ m => m
  | .error _ m => m

def afterAll (m : StoryModel) (ops : List Operation) : StoryModel :=
  ops.foldl after m

end StoryModel
end StoryLoom
