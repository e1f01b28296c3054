import StoryLoom.Document.Template
import StoryLoom.Story.Ownership

/-!
# Story — the stories of documents

- `StoryModel.read` : the story of a document, with its owners and parents from its structure
- `StoryModel.load` : the story of a file
-/

namespace StoryLoom
namespace Document.Shape

/-! ## Numbers and values -/

def componentId : Shape ComponentId :=
  fun v => (natural 64 v).map ComponentId.mk

def codeBlockId : Shape CodeBlockId :=
  fun v => (natural 64 v).map CodeBlockId.mk

def lineId : Shape LineId :=
  fun v => (natural 64 v).map LineId.mk

def resource : Shape Resource :=
  record "Resource" fun fs => do
    return {
      name := ← fs.required "name" text
      codeText := ← fs.required "code_text" text
      types := ← fs.listOf "types" text
      templateId := ← fs.maybe "template_id" text }

def binding : Shape Binding :=
  choice fun
    | .alone "Unbound" => some .unbound
    | .holding "Resource" v => (resource v).map .resource
    | .holding "Reference" v => (componentId v).map .reference
    | .holding "Function" v => (componentId v).map .function
    | .holding "StoryPoint" v => (componentId v).map .storyPoint
    | .holding "Uninitialized" v => (componentId v).map .uninitialized
    | .holding "Dialogue" v => (lineId v).map .dialogue
    | _ => none

/-! ## Components -/

def storyPoint : Shape StoryPoint :=
  record "StoryPoint" fun fs => do
    return {
      children := ← fs.listOf "children" componentId
      successors := ← fs.listOf "successors" componentId
      fanIn := ← fs.optional "fan_in" (natural 32) 1 }

def scriptRole : Shape ScriptRole :=
  oneOf [("Cause", .cause), ("Effect", .effect), ("Control", .control)]

def scriptIt : Shape ScriptIt :=
  record "ScriptIt" fun fs => do
    return {
      role := ← fs.required "role" scriptRole
      codeBlocks := ← fs.listOf "code_blocks" codeBlockId
      children := ← fs.listOf "children" componentId
      controlFormat := ← fs.maybe "control_format" text }

def knowIt : Shape KnowIt :=
  record "KnowIt" fun fs => do
    return {
      types := ← fs.listOf "types" text
      binding := ← fs.optional "binding" binding .unbound }

def askIt : Shape AskIt :=
  record "AskIt" fun fs => do
    return {
      condition := ← fs.maybe "condition" componentId
      ifChild := ← fs.maybe "if_child" componentId
      elseChild := ← fs.maybe "else_child" componentId }

def children (type : String) : Shape (List ComponentId) :=
  record type fun fs => fs.listOf "children" componentId

def taskRoles : Shape TaskRoles :=
  record "CollaborativeRoles" fun fs => do
    return {
      initiator := ← fs.required "initiator" text
      responder := ← fs.required "responder" text }

def task : Shape Task :=
  record "Task" fun fs => do
    return {
      children := ← fs.listOf "children" componentId
      successors := ← fs.listOf "successors" componentId
      chance := ← fs.optional "chance" word32 100
      roles := ← fs.maybe "roles" taskRoles }

def componentKind : Shape ComponentKind :=
  choice fun
    | .alone "Note" => some .note
    | .holding "StoryPoint" v => (storyPoint v).map .storyPoint
    | .holding "ScriptIt" v => (scriptIt v).map .scriptIt
    | .holding "KnowIt" v => (knowIt v).map .knowIt
    | .holding "AskIt" v => (askIt v).map .askIt
    | .holding "Container" v => (children "Container" v).map .container
    | .holding "Task" v => (task v).map .task
    | .holding "Behaviour" v => (children "Behaviour" v).map .behaviour
    | _ => none

def component : Shape Component :=
  record "StoryComponent" fun fs => do
    return {
      id := ← fs.optional "id" componentId ⟨0⟩
      text := ← fs.required "display_text" text
      owner := ← fs.maybe "owner" componentId
      kind := ← fs.required "kind" componentKind }

/-! ## Code, slots and lines -/

def codeBlock : Shape CodeBlock :=
  record "CodeBlock" fun fs => do
    return {
      id := ← fs.optional "id" codeBlockId ⟨0⟩
      owner := ← fs.maybe "owner" componentId
      slot := ← fs.required "slot" text
      subject := ← fs.maybe "subject" text
      source := ← fs.maybe "source" text
      types := ← fs.listOf "types" text
      parameters := ← fs.listOf "parameters" componentId
      implicits := ← fs.listOf "implicits" componentId
      includes := ← fs.listOf "includes" text
      code := ← fs.optional "code" template [] }

def slot : Shape Slot :=
  record "Slot" fun fs => do
    return {
      format := ← fs.required "format" text
      parameters := ← fs.listOf "parameters" componentId
      condition := ← fs.maybe "condition" text }

def speaker : Shape Speaker :=
  oneOf [("Player", .player), ("Npc", .npc)]

def dialogueLine : Shape DialogueLine :=
  record "DialogueLine" fun fs => do
    return {
      id := ← fs.optional "id" lineId ⟨0⟩
      text := ← fs.required "text" text
      speaker := ← fs.required "speaker" speaker
      enabled := ← fs.optional "enabled" flag true
      parent := ← fs.maybe "parent" lineId
      children := ← fs.listOf "children" lineId
      audio := ← fs.maybe "audio" componentId
      image := ← fs.maybe "image" componentId }

def story : Shape StoryModel :=
  record "StoryModel" fun fs => do
    return {
      root := ← fs.required "root" componentId
      components := ← fs.tableOf "components" componentId component
      codeBlocks := ← fs.tableOf "code_blocks" codeBlockId codeBlock
      slots := ← fs.tableOf "slots" text slot
      lines := ← fs.tableOf "dialogue_lines" lineId dialogueLine }

end Document.Shape

namespace StoryModel

variable [DocumentLibrary]

/-- The story of a document. Its root has to exist. -/
def read (text : String) : Except ModelError StoryModel := do
  match Document.Shape.story.ofText text with
  | none => .error .malformed
  | some m =>
    let m := m.rebuildOwners
    let _ ← m.component m.root
    return m

def load (files : Filing.Lookup) (path : String) : Except ModelError StoryModel := do
  let text ← ((files path).bind Filing.Node.text).mapError .unreadable
  read text

end StoryModel
end StoryLoom
