import StoryLoom.Template.Fragment
import StoryLoom.Text.Blank

/-!
# Inline — templates written as text with labels in braces

- `InlineError` : why a text is refused
- `read`        : the literals and references of a text
- `write`       : the text of a literal or a reference

`{label}` is a reference, `{{` and `}}` are a brace each, all else stands for itself.
-/

namespace StoryLoom
namespace Inline

inductive InlineError
  | nestedBraces
  | unclosedBrace
  | emptyBraces
  | unmatchedBrace
  deriving DecidableEq, Repr

def InlineError.message : InlineError → String
  | .nestedBraces => "nested braces are not allowed"
  | .unclosedBrace => "unclosed brace"
  | .emptyBraces => "empty braces"
  | .unmatchedBrace => "unmatched closing brace"

/-- Where reading stands: in plain text or in a label, with what was read of it in reverse. -/
inductive Place
  | text (read : List Char)
  | label (read : List Char)

/-- The literal of a text read in reverse, in front of what follows. Empty text leaves no trace. -/
def flush (read : List Char) (rest : Template) : Template :=
  if read.isEmpty then rest else .literal (String.ofList read.reverse) :: rest

def readFrom : Place → List Char → Except InlineError Template
  | .text read, [] => .ok (flush read [])
  | .text read, '\x7b' :: '\x7b' :: rest => readFrom (.text ('\x7b' :: read)) rest
  | .text read, '\x7b' :: rest => (readFrom (.label []) rest).map (flush read)
  | .text read, '\x7d' :: '\x7d' :: rest => readFrom (.text ('\x7d' :: read)) rest
  | .text _, '\x7d' :: _ => .error .unmatchedBrace
  | .text read, c :: rest => readFrom (.text (c :: read)) rest
  | .label _, [] => .error .unclosedBrace
  | .label read, '\x7d' :: rest =>
    let label := Text.trimList read.reverse
    if label.isEmpty then .error .emptyBraces
    else (readFrom (.text []) rest).map (.ref (String.ofList label) :: ·)
  | .label _, '\x7b' :: _ => .error .nestedBraces
  | .label read, c :: rest => readFrom (.label (c :: read)) rest

def read (text : String) : Except InlineError Template :=
  readFrom (.text []) text.toList

/-! ## Writing -/

/-- A character with its brace doubled, if it is one. -/
def doubled (c : Char) : List Char :=
  if c = '\x7b' || c = '\x7d' then [c, c] else [c]

/-- The text of a literal or a plain reference; no other piece has one. -/
def writePiece : Fragment → Option (List Char)
  | .literal text => some (text.toList.flatMap doubled)
  | .reference label none => some ('\x7b' :: label.toList ++ ['\x7d'])
  | _ => none

/-- The text of a template of literals and plain references. -/
def write (template : Template) : Option String :=
  (template.mapM writePiece).map (fun pieces => String.ofList pieces.flatten)

end Inline
end StoryLoom
