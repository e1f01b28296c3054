import StoryLoom.Pattern.Library

/-!
# Legal — patterns that a text must match, and stripping text to fit

- `strip`, `stripLeading` : what an acceptance predicate leaves of a text
- `LegalPattern`          : a pattern with its source
- `compile`, `accepts`    : compiling a source between anchors, and whether a text is legal

The stripping functions know a pattern only by the texts it accepts.
-/

namespace StoryLoom
namespace Pattern

/-! ## Stripping -/

/-- Keep a character only if the text kept so far, with it, is accepted. -/
def keepLegal (accepts : List Char → Bool) (kept : List Char) : List Char → List Char
  | [] => kept
  | c :: rest =>
    if accepts (kept ++ [c]) then keepLegal accepts (kept ++ [c]) rest
    else keepLegal accepts kept rest

/-- The text itself if it is accepted, else its characters kept one by one. -/
def strip (accepts : List Char → Bool) (text : List Char) : List Char :=
  if accepts text then text else keepLegal accepts [] text

/-- The text from the first character on that is accepted by itself. -/
def stripLeading (accepts : List Char → Bool) (text : List Char) : List Char :=
  text.dropWhile (fun c => !accepts [c])

/-- A text made to fit: stripped, then without the characters that begin no legal text. -/
def legalise (accepts : List Char → Bool) (text : List Char) : List Char :=
  stripLeading accepts (strip accepts text)

end Pattern

/-! ## Legality patterns -/

variable [PatternLibrary]

/-- A pattern for whole texts, with the source it was compiled from. -/
structure LegalPattern where
  source : String
  compiled : PatternLibrary.Compiled

namespace LegalPattern

/-- The grammar of names where a dictionary has none: a letter, then letters, digits and `_`. -/
def defaultNaming : String := "[a-zA-Z]+[0-9a-zA-Z_]*"

/-- The written pattern that ties a source to both ends of a text. -/
def anchored (source : String) : List Char :=
  "^(?:".toList ++ source.toList ++ ")$".toList

def compile (source : String) : Except Pattern.PatternError LegalPattern :=
  match PatternLibrary.compile (anchored source) with
  | .ok compiled => .ok ⟨source, compiled⟩
  | .error e => .error e

/-- Whether a text is legal: the library finds the anchored pattern in it. -/
def accepts (p : LegalPattern) (text : List Char) : Bool :=
  PatternLibrary.occursIn p.compiled text

/-- Acceptance of a text that is given as a string, such as a name or a filtered text. -/
def isLegal (p : LegalPattern) (text : String) : Bool :=
  p.accepts text.toList

end LegalPattern
end StoryLoom
