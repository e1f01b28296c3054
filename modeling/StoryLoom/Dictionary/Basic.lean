import StoryLoom.Table
import StoryLoom.Template.Fragment

/-!
# Dictionary — what is known of one target language

- `FunctionTemplates` : the three ways in which a function appears in code
- `TypeEntry`         : how values of a game type are written
- `Dictionary`        : templates, types and naming rules of a language
-/

namespace StoryLoom

/-- The three ways in which a function appears in code. -/
structure FunctionTemplates where
  declaration : Template := []
  definition : Template := []
  call : Template := []

structure TypeEntry where
  /-- The type's name in the target language. -/
  codeSymbol : String
  /-- The text put in front of each of these sequences. -/
  escapes : Table String String := ∅
  /-- A pattern for single characters; others are dropped from values. -/
  legalValues : Option String := none
  /-- The template of a formatted value; none if empty. -/
  format : Template := []

/-- The templates, types and naming rules of one target language. -/
structure Dictionary where
  name : String
  indent : String := "    "
  newline : String := "\n"
  namingPattern : Option String := none
  reservedWords : List String := []
  types : Table String TypeEntry := ∅
  function : FunctionTemplates := {}
  formats : Table String Template := ∅
  /-- The type whose format renders the line that opens a conversation. -/
  dialogueType : Option String := none
  /-- The type whose format renders every other line. -/
  dialogueLineType : Option String := none

namespace Dictionary

def named (name : String) : Dictionary :=
  { name := name }

def blank : Dictionary :=
  named ""

def format? (d : Dictionary) (id : String) : Option Template :=
  d.formats.get? id

def type? (d : Dictionary) (name : String) : Option TypeEntry :=
  d.types.get? name

end Dictionary
end StoryLoom
