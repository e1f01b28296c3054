import StoryLoom.Story.Binding
import StoryLoom.Template.Fragment

/-!
# CodeBlock — the code of scripts and the place it belongs to

- `Location`  : a slot, and the text of the subject that the code is attached to
- `CodeBlock` : a template with its slot, parameters and further properties
- `Slot`      : an event of the game that causes hook into
-/

namespace StoryLoom

/-- Where code ends up: a slot and the text of a subject. -/
structure Location where
  slot : String
  subject : Option String := none
  deriving DecidableEq, Repr

def Location.describe (l : Location) : String :=
  match l.subject with
  | some subject => l.slot ++ "@" ++ subject
  | none => l.slot

structure CodeBlock where
  id : CodeBlockId := ⟨0⟩
  owner : Option ComponentId := none
  slot : String
  /-- The text of the parameter that the block is attached to. -/
  subject : Option String := none
  /-- The library entry of which the block is a copy. -/
  source : Option String := none
  types : List String := []
  parameters : List ComponentId := []
  implicits : List ComponentId := []
  includes : List String := []
  code : Template := []

def CodeBlock.variables (b : CodeBlock) : List ComponentId :=
  b.parameters ++ b.implicits

/-- An event of the game that causes hook into. -/
structure Slot where
  /-- The format that renders a whole script. -/
  format : String
  /-- Variables that the game provides to code in this slot. -/
  parameters : List ComponentId := []
  condition : Option String := none
  deriving DecidableEq, Repr

end StoryLoom
