import StoryLoom.Table
import StoryLoom.Filing.Tree
import StoryLoom.Story.Component
import StoryLoom.Story.CodeBlock
import StoryLoom.Story.Dialogue

/-!
# StoryModel — an authored story as tables of its objects

- `StoryModel` : components, code blocks, slots and dialogue lines, with the root story point
- `ModelError` : why an operation or a document is refused
-/

namespace StoryLoom

structure StoryModel where
  root : ComponentId
  components : Table ComponentId Component := ∅
  codeBlocks : Table CodeBlockId CodeBlock := ∅
  slots : Table String Slot := ∅
  lines : Table LineId DialogueLine := ∅

namespace StoryModel

def component? (m : StoryModel) (id : ComponentId) : Option Component :=
  m.components.get? id

def codeBlock? (m : StoryModel) (id : CodeBlockId) : Option CodeBlock :=
  m.codeBlocks.get? id

def line? (m : StoryModel) (id : LineId) : Option DialogueLine :=
  m.lines.get? id

def slot? (m : StoryModel) (name : String) : Option Slot :=
  m.slots.get? name

/-- The variable of a number, if the component is one. -/
def knowIt? (m : StoryModel) (id : ComponentId) : Option KnowIt :=
  (m.component? id).bind Component.knowIt?

def blockOwner? (m : StoryModel) (block : CodeBlock) : Option Component :=
  block.owner.bind m.component?

end StoryModel

inductive ModelError
  | unknownComponent (id : ComponentId)
  | unknownCodeBlock (id : CodeBlockId)
  | unknownLine (id : LineId)
  | notAContainer (id : ComponentId)
  | wrongKind (id : ComponentId) (wanted : String)
  | unreadable (cause : FileError)
  | malformed
  deriving DecidableEq, Repr

def ModelError.message : ModelError → String
  | .unknownComponent id => "component not found: " ++ id.describe
  | .unknownCodeBlock id => "code block not found: " ++ id.describe
  | .unknownLine id => "dialogue line not found: " ++ id.describe
  | .notAContainer id => "component " ++ id.describe ++ " cannot hold children"
  | .wrongKind id wanted => "component " ++ id.describe ++ " is not a " ++ wanted
  | .unreadable cause => "IO error: " ++ cause.message
  | .malformed => "RON deserialization error: <ron error>"

namespace StoryModel

def component (m : StoryModel) (id : ComponentId) : Except ModelError Component :=
  match m.component? id with
  | some c => .ok c
  | none => .error (.unknownComponent id)

end StoryModel
end StoryLoom
