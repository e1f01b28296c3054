import StoryLoom.Dictionary.Basic

/-!
# Merge — laying one dictionary over another

- `FunctionTemplates.overlay` : templates that are not empty replace those below
- `Dictionary.merge`          : a dictionary with another laid over it
- `Dictionary.mergeAll`       : a dictionary with several laid over it in turn

Entries of the upper dictionary replace those of the same key, reserved words add up, and a part that
has its default value in the upper dictionary keeps the value from below.
-/

namespace StoryLoom

def unlessSilent {α : Type} [DecidableEq α] (silent lower upper : α) : α :=
  if upper = silent then lower else upper

def overTemplate (lower upper : Template) : Template :=
  if upper.isEmpty then lower else upper

def overOption {α : Type} (lower upper : Option α) : Option α :=
  upper.or lower

def FunctionTemplates.overlay (lower upper : FunctionTemplates) : FunctionTemplates where
  declaration := overTemplate lower.declaration upper.declaration
  definition := overTemplate lower.definition upper.definition
  call := overTemplate lower.call upper.call

namespace Dictionary

def addWord (words : List String) (word : String) : List String :=
  if words.contains word then words else words ++ [word]

/-- A list of words with further words, each once. -/
def addWords (words more : List String) : List String :=
  more.foldl addWord words

def merge (lower upper : Dictionary) : Dictionary where
  name := unlessSilent "" lower.name upper.name
  indent := unlessSilent blank.indent lower.indent upper.indent
  newline := unlessSilent blank.newline lower.newline upper.newline
  namingPattern := overOption lower.namingPattern upper.namingPattern
  reservedWords := addWords lower.reservedWords upper.reservedWords
  types := lower.types.extend upper.types
  function := lower.function.overlay upper.function
  formats := lower.formats.extend upper.formats
  dialogueType := overOption lower.dialogueType upper.dialogueType
  dialogueLineType := overOption lower.dialogueLineType upper.dialogueLineType

/-- A dictionary with others laid over it, the last one on top. -/
def mergeAll (lower : Dictionary) (layers : List Dictionary) : Dictionary :=
  layers.foldl merge lower

end Dictionary
end StoryLoom
