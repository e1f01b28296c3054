import StoryLoom.Text.Quoted

/-!
# Fragment — the pieces of a code template

- `FormatTarget`     : the kinds of context a format can be restricted to
- `SeriesFilter`     : which elements of a series are kept
- `Fragment`         : one piece of a template
- `Fragment.describe`: how error messages call a piece
-/

namespace StoryLoom

/-- The kinds of context that a format can be restricted to. -/
inductive FormatTarget
  | askIt
  | knowIt
  | note
  | scriptIt
  | cause
  | effect
  | controlIt
  | storyPoint
  | container
  | task
  | behaviour
  | dialogueLine
  deriving DecidableEq, Repr

/-- What a filter compares with its pattern. -/
inductive FilterBy
  | none
  | name
  | slot
  deriving DecidableEq, Repr

/-- Which elements of a series are kept: those with a compared text that the pattern accepts. -/
structure SeriesFilter where
  criterion : FilterBy := .none
  pattern : String := ""
  deriving DecidableEq, Repr

namespace SeriesFilter

def byName (pattern : String) : SeriesFilter :=
  { criterion := .name, pattern := pattern }

def bySlot (pattern : String) : SeriesFilter :=
  { criterion := .slot, pattern := pattern }

end SeriesFilter

inductive Fragment
  /-- Text as it stands. -/
  | literal (text : String)
  /-- A value of the context; `legal` replaces the naming pattern if the value is a new name. -/
  | reference (label : String) (legal : Option String)
  /-- A body resolved against an object near the context. -/
  | scope (label : String) (name : Option String) (body : List Fragment)
  /-- A body resolved against each element of a collection. -/
  | series (source : String) (separator : String) (filter : SeriesFilter) (unique : Bool)
      (body : List Fragment)
  /-- Indentation, body, newline. -/
  | line (body : List Fragment)
  /-- A body one level deeper. -/
  | indent (body : List Fragment)
  /-- A named format of the dictionary. -/
  | format (id : String) (onlyFor : Option FormatTarget)
  /-- Indentation and body, if a condition of the context holds. -/
  | conditional (condition : String) (body : List Fragment)
  deriving Repr

abbrev Template := List Fragment

namespace Fragment

instance : Inhabited Fragment := ⟨literal ""⟩

/-- A reference without a pattern of its own. -/
def ref (label : String) : Fragment :=
  reference label none

def describe : Fragment → String
  | literal text => "literal " ++ Text.quoted text
  | reference label _ => "reference '" ++ label ++ "'"
  | scope label (some name) _ => "scope '" ++ label ++ "(" ++ name ++ ")'"
  | scope label none _ => "scope '" ++ label ++ "'"
  | series source _ _ _ _ => "series '" ++ source ++ "'"
  | line _ => "line"
  | indent _ => "indent"
  | format id _ => "format '" ++ id ++ "'"
  | conditional condition _ => "conditional '" ++ condition ++ "'"

end Fragment
end StoryLoom
