/-!
# Library — what is asked of a library of regular expressions

- `PatternError`   : why a pattern is refused
- `PatternLibrary` : compiling a written pattern, and searching a text for it

Patterns come from dictionaries, filters and the rules for names. How they are read and searched for is left
to a library, of which nothing else is known here.
-/

namespace StoryLoom
namespace Pattern

inductive PatternError
  | malformed
  /-- The compiled pattern takes more bytes than the library allows. -/
  | tooLarge (limit : Nat)
  deriving DecidableEq, Repr

/-- The account of a refusal. A malformed pattern is always reported in the same words. -/
def PatternError.message : PatternError → String
  | .malformed => "<regex error>"
  | .tooLarge limit => s!"Compiled regex exceeds size limit of {limit} bytes."

end Pattern

class PatternLibrary where
  Compiled : Type
  compile : List Char → Except Pattern.PatternError Compiled
  /-- Whether some part of a text matches, wherever it stands. -/
  occursIn : Compiled → List Char → Bool

end StoryLoom
