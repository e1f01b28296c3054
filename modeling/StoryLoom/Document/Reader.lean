import StoryLoom.Document.Token

/-!
# Reader — reading the tree of a document from its tokens

- `Reader`       : readers of tokens
- `valueUpTo`    : the value at the front of some tokens
- `value`        : the value of a whole document
- `tokenLibrary` : the library that reads documents this way

A record is told from a tuple by the colon after its first name. Commas separate entries, and one may
follow the last.
-/

namespace StoryLoom
namespace Document

abbrev Reader := StateT (List Token) Option

namespace Reader

def refuse {α : Type} : Reader α :=
  fun _ => none

def peek : Reader (Option Token) := do
  return (← get).head?

def next : Reader Token := do
  match ← get with
  | [] => refuse
  | t :: rest =>
    set rest
    return t

def mark (c : Char) : Reader Unit := do
  if (← next) = .mark c then return () else refuse

def mark? (c : Char) : Reader Bool := do
  if (← peek) = some (.mark c) then
    mark c
    return true
  else return false

/-- The entries up to a closing mark, which is taken away; at most so many. -/
def entries {α : Type} (close : Char) (entry : Reader α) : Nat → Reader (List α)
  | 0 => refuse
  | room + 1 => do
    if ← mark? close then return []
    let first ← entry
    if ← mark? ',' then
      let rest ← entries close entry room
      return first :: rest
    else
      mark close
      return [first]

/-- The entries up to a closing mark. There are no more of them than tokens. -/
def allEntries {α : Type} (close : Char) (entry : Reader α) : Reader (List α) := do
  entries close entry ((← get).length + 1)

def fieldName : Reader String := do
  match ← next with
  | .name name => return name.text
  | _ => refuse

/-- Whether a record and no tuple is in front: a name and a colon. -/
def atRecord : Reader Bool := do
  match ← get with
  | .name _ :: .mark ':' :: _ => return true
  | _ => return false

def pair {α β : Type} (first : Reader α) (second : Reader β) : Reader (α × β) := do
  let a ← first
  mark ':'
  let b ← second
  return (a, b)

/-- What stands in parentheses, read after the opening one. -/
def group (inner : Reader Value) (name : Option String) : Reader Value := do
  if ← atRecord then
    return .record name (← allEntries ')' (pair fieldName inner))
  else
    return .tuple name (← allEntries ')' inner)

def optionValue (inner : Reader Value) : Reader Value := do
  mark '('
  let v ← inner
  let _ ← mark? ','
  mark ')'
  return .present v

/-- The words that nothing in parentheses follows. -/
def standAlone : List String :=
  ["true", "false", "None", "inf", "NaN"]

def named (inner : Reader Value) (name : Name) : Reader Value := do
  if !name.marked && name.text = "Some" then optionValue inner
  else if !name.marked && standAlone.contains name.text then return .word name
  else if ← mark? '(' then group inner (some name.text)
  else return .word name

/-- A value, given the reader of the values inside it. -/
def valueWith (inner : Reader Value) : Reader Value := do
  match ← next with
  | .number natural => return .number natural
  | .text text => return .text text
  | .char c => return .char c
  | .name name => named inner name
  | .mark '(' => group inner none
  | .mark '[' => return .list (← allEntries ']' inner)
  | .mark '\x7b' => return .map (← allEntries '\x7d' (pair inner inner))
  | .mark _ => refuse

/-- A value with at most so many values around each other. -/
def valueUpTo : Nat → Reader Value
  | 0 => refuse
  | depth + 1 => valueWith (valueUpTo depth)

end Reader

/-- How many levels may be open at once. -/
def levelLimit : Nat := 128

def value (text : String) : Option Value := do
  let ts ← tokens text
  let (v, rest) ← (Reader.valueUpTo (levelLimit + 1)).run ts
  if rest.isEmpty && v.levels ≤ levelLimit then return v else none

end Document

namespace Libraries

scoped instance tokenLibrary : DocumentLibrary where
  value := Document.value
  levelLimit := Document.levelLimit

end Libraries
end StoryLoom
