import StoryLoom.Dictionary.Check
import StoryLoom.Document.Template

/-!
# Dictionary — the dictionaries of documents

- `Dictionary.read` : the dictionary of a document, checked
- `Dictionary.ofNode`, `Dictionary.load` : the dictionary of a file
-/

namespace StoryLoom
namespace Document.Shape

def functionTemplates : Shape FunctionTemplates :=
  record "CodeContextSet" fun fs => do
    return {
      declaration := ← fs.optional "declaration" template []
      definition := ← fs.optional "definition" template []
      call := ← fs.optional "call" template [] }

def typeEntry : Shape TypeEntry :=
  record "TypeInfo" fun fs => do
    return {
      codeSymbol := ← fs.required "code_symbol" text
      escapes := ← fs.tableOf "escapes" text text
      legalValues := ← fs.maybe "legal_values" text
      format := ← fs.optional "format" template [] }

def dictionary : Shape Dictionary :=
  record "LanguageDictionary" fun fs => do
    return {
      name := ← fs.required "name" text
      indent := ← fs.optional "indent" text Dictionary.blank.indent
      newline := ← fs.optional "newline" text Dictionary.blank.newline
      namingPattern := ← fs.maybe "naming_pattern" text
      reservedWords := ← fs.listOf "reserved_words" text
      types := ← fs.tableOf "types" text typeEntry
      function := ← fs.optional "function" functionTemplates {}
      formats := ← fs.tableOf "formats" text template
      dialogueType := ← fs.maybe "dialogue_type" text
      dialogueLineType := ← fs.maybe "dialogue_line_type" text }

end Document.Shape

namespace Dictionary

variable [PatternLibrary] [DocumentLibrary]

def read (text : String) : Except DictionaryError Dictionary := do
  match Document.Shape.dictionary.ofText text with
  | none => .error .malformed
  | some d =>
    d.validate
    return d

def ofNode (node : Filing.Node) : Except DictionaryError Dictionary := do
  let text ← node.text.mapError .unreadable
  read text

def load (files : Filing.Lookup) (path : String) : Except DictionaryError Dictionary := do
  let node ← (files path).mapError .unreadable
  ofNode node

end Dictionary
end StoryLoom
