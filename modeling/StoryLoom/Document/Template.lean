import StoryLoom.Document.Shape
import StoryLoom.Template.Fragment

/-!
# Template — the templates of documents

- `fragmentWith` : a piece, given how bodies are read
- `template`     : a template
-/

namespace StoryLoom
namespace Document

namespace Shape

def formatTarget : Shape FormatTarget :=
  oneOf [("AskIt", .askIt), ("KnowIt", .knowIt), ("Note", .note), ("ScriptIt", .scriptIt),
    ("Cause", .cause), ("Effect", .effect), ("ControlIt", .controlIt), ("StoryPoint", .storyPoint),
    ("Container", .container), ("Task", .task), ("Behaviour", .behaviour),
    ("DialogueLine", .dialogueLine)]

def filterBy : Shape FilterBy :=
  oneOf [("None", .none), ("Name", .name), ("Slot", .slot)]

def seriesFilter : Shape SeriesFilter :=
  record "SeriesFilter" fun fs => do
    return {
      criterion := ← fs.optional "by" filterBy .none
      pattern := ← fs.optional "pattern" text "" }

def series (body : Shape Template) : Shape Fragment :=
  record "Series" fun fs => do
    let source ← fs.required "source" text
    let separator ← fs.optional "separator" text ""
    let filter ← fs.optional "filter" seriesFilter {}
    let unique ← fs.optional "unique" flag false
    return .series source separator filter unique (← fs.required "body" body)

/-- A piece of a template, given how bodies are read. -/
def fragmentWith (body : Shape Template) : Shape Fragment :=
  choice fun
    | .holding "Literal" v => do return .literal (← text v)
    | .withFields "Reference" fs => do
      return .reference (← fs.required "data" text) (← fs.maybe "legal" text)
    | .withFields "Scope" fs => do
      return .scope (← fs.required "data" text) (← fs.maybe "name_ref" text)
        (← fs.required "body" body)
    | .holding "Series" v => series body v
    | .holding "Line" v => do return .line (← body v)
    | .holding "Indent" v => do return .indent (← body v)
    | .withFields "Format" fs => do
      return .format (← fs.required "id" text) (← fs.maybe "only_for" formatTarget)
    | .withFields "Conditional" fs => do
      return .conditional (← fs.required "condition" text) (← fs.required "body" body)
    | _ => none

def templateUpTo : Nat → Shape Template
  | 0 => fun _ => none
  | depth + 1 => list (fragmentWith (templateUpTo depth))

def template : Shape Template :=
  fun s => templateUpTo (s.room + 1) s

end Shape
end Document
end StoryLoom
