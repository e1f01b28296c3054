import StoryLoom.Pattern.Legal
import StoryLoom.Template.Inline
import StoryLoom.Filing.Tree

/-!
# DictionaryError — why a dictionary or a template text is refused

- `PatternPlace`    : where a dictionary holds patterns
- `DictionaryError` : the causes, with their accounts in `message`
-/

namespace StoryLoom

/-- Where a dictionary holds a pattern that it checks. -/
inductive PatternPlace
  | naming
  | type (name : String)
  deriving DecidableEq, Repr

def PatternPlace.describe : PatternPlace → String
  | .naming => "naming_pattern"
  | .type name => "type '" ++ name ++ "'"

/-- The account of text that is no well-formed document of the expected shape. -/
def malformedDocument : String := "RON deserialization error: <ron error>"

inductive DictionaryError
  | template (cause : Inline.InlineError)
  | invalidPattern (pattern : String) (place : PatternPlace) (cause : Pattern.PatternError)
  | unreadable (cause : FileError)
  | malformed
  deriving DecidableEq, Repr

def DictionaryError.message : DictionaryError → String
  | .template cause => "template parse error: " ++ cause.message
  | .invalidPattern pattern place cause =>
    "invalid pattern '" ++ pattern ++ "' in " ++ place.describe ++ ": " ++ cause.message
  | .unreadable cause => "IO error: " ++ cause.message
  | .malformed => malformedDocument

end StoryLoom
