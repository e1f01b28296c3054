import StoryLoom.Pattern.Reader.Bracket
import StoryLoom.Unicode.Alphabetic

/-!
# Reader — reading a regular expression from its written form

- `readFlags`, `groupName` : what stands at the start of a group
- `repetitions`            : the repetition marks after an expression
- `whole?`                 : the expression that takes a text to its end
- `Expr.read?`             : the expression of a written pattern, `none` if the pattern is malformed

The grammar, from the loosest binding to the tightest: alternatives separated by `|`; items one after
the other; an item with any number of repetition marks; single characters, escapes, sets in brackets,
groups and switches. Two alternatives or more count one level of nesting, and so do two items or more, a
repetition mark and a group. Every function takes a bound on the depth of its calls; the bound of `read?`
exceeds what a text of its length can use.
-/

namespace StoryLoom
namespace Pattern
namespace Read

/-! ## Switches and group names -/

def setFlag (flags : Flags) (c : Char) (on : Bool) : Option Flags :=
  match c with
  | 'i' => some { flags with caseless := on }
  | 'm' => some { flags with multiLine := on }
  | 's' => some { flags with dotAll := on }
  | 'x' => some { flags with spaced := on }
  | 'R' => some { flags with crlf := on }
  | 'U' => some { flags with lazyFirst := on }
  | 'u' => some { flags with asciiOnly := !on }
  | _ => none

/-- Switches up to `:` or `)`: the new switches, the characters read in reverse, and the rest from
that closing character on. No switch and no hyphen may occur twice, and no hyphen comes last. -/
def readFlags (flags : Flags) (seen : List Char) :
    List Char → Option (Flags × List Char × List Char)
  | [] => none
  | c :: rest =>
    if c = ':' || c = ')' then
      if seen.head? == some '-' then none else some (flags, seen, c :: rest)
    else if seen.contains c then none
    else if c = '-' then readFlags flags (c :: seen) rest
    else
      match setFlag flags c (!seen.contains '-') with
      | none => none
      | some flags => readFlags flags (c :: seen) rest

/-- The characters of a group name; a number, a dot or a bracket never comes first. -/
def isNameChar (first : Bool) (c : Char) : Bool :=
  c == '_' || Unicode.isAlphabetic c ||
    (!first && (Unicode.isAlphanumeric c || c == '.' || c == '[' || c == ']'))

def isGroupName : List Char → Bool
  | [] => false
  | c :: more => isNameChar true c && more.all (isNameChar false)

def groupName : Read Unit := do
  let s ← get
  let name := s.rest.takeWhile (· != '>')
  let behind := s.rest.dropWhile (· != '>')
  if behind.isEmpty || !isGroupName name || s.names.contains name then failure
  else set { s with rest := behind.drop 1, names := name :: s.names }

def groupNumber : Read Nat := do
  let s ← get
  set { s with groups := s.groups + 1 }
  return s.groups

/-! ## Repetition -/

/-- An expression repeated. A mark that follows turns the preference around. -/
def repeated (least : Nat) (most : Option Nat) (e : Nested Expr) : Read (Nested Expr) := do
  let turned ← accept "?"
  let flags ← flags
  return ⟨.repeated least most (turned != flags.lazyFirst) e.value, e.depth + 1⟩

def bounds : Read (Nat × Option Nat) := do
  let least ← decimal?
  if (← peek) = ',' then
    bumpInside
    if (← peek) = '\x7d' then
      match least with
      | some n => return (n, none)
      | none => failure
    else
      match least, (← decimal?) with
      | some n, some m => return (n, some m)
      | _, _ => failure
  else
    match least with
    | some n => return (n, some n)
    | none => failure

def counted (e : Nested Expr) : Read (Nested Expr) := do
  bumpInside
  let (least, most) ← bounds
  if (← peek) = '\x7d' then
    bumpSpace
    if most.all (least ≤ ·) then repeated least most e else failure
  else failure

def markBounds? : Char → Option (Nat × Option Nat)
  | '?' => some (0, some 1)
  | '*' => some (0, none)
  | '+' => some (1, none)
  | _ => none

def repetitions : Nat → Nested Expr → Read (Nested Expr)
  | 0, e => return e
  | n + 1, e => do
    skipSpace
    let c ← peek?
    match c.bind markBounds? with
    | some (least, most) =>
      bump 1
      repetitions n (← repeated least most e)
    | none => if c = some '\x7b' then repetitions n (← counted e) else return e

/-! ## Groups and alternatives -/

/-- What the start of a group announces: a group with switches of its own, with a number unless it only
brackets, or switches for the rest of the group around. -/
inductive Opening
  | group (number : Option Nat) (flags : Flags)
  | switches (flags : Flags)

def acceptNamed : Read Bool := do
  if (← accept "?P<") then return true else accept "?<"

/-- The start of a group, of which the parenthesis comes next. Look-around is refused. -/
def groupOpening : Read Opening := do
  bumpSpace
  let flags ← flags
  if (← accept "?=") || (← accept "?!") || (← accept "?<=") || (← accept "?<!") then failure
  else if (← acceptNamed) then
    groupName
    return .group (some (← groupNumber)) flags
  else if (← accept "?") then
    match readFlags flags [] (← get).rest with
    | none => failure
    | some (flags, read, rest) =>
      modify fun s => { s with rest := rest.drop 1 }
      if rest.head? == some ':' then return .group none flags
      else if read.isEmpty then failure
      else return .switches flags
  else return .group (some (← groupNumber)) flags

/-- The set of a character that stands for itself. Where sets know the characters below 128 alone, so
does case. -/
def literalSet (flags : Flags) (c : Char) : CharSet :=
  flags.fold (.single c)

def primitiveExpr (flags : Flags) : Primitive → Expr
  | .literal c => .chars (literalSet flags c)
  | .set k => .chars k
  | .assertion a => .assertion a

/-- The set of the dot: all characters, or all that end no line. It has too many members where sets know
the characters below 128 alone. -/
def dot : Read CharSet := do
  let flags ← flags
  if flags.asciiOnly then failure
  else if flags.dotAll then return CharSet.complement .nothing
  else if flags.crlf then return CharSet.complement ((CharSet.single '\n').union (.single '\r'))
  else return CharSet.complement (.single '\n')

def sequence : List (Nested Expr) → Nested Expr
  | [] => ⟨.blank, 0⟩
  | [e] => e
  | es => ⟨.seq (es.map (·.value)), (es.map (·.depth)).foldl max 0 + 1⟩

def choice : List (Nested Expr) → Nested Expr
  | [e] => e
  | es => ⟨.alt (es.map (·.value)), (es.map (·.depth)).foldl max 0 + 1⟩

mutual

def alternatives : Nat → Read (List (Nested Expr))
  | 0 => failure
  | n + 1 => do
    let first ← items n []
    if (← peek?) = some '|' then
      bump 1
      return sequence first :: (← alternatives n)
    else return [sequence first]

/-- Items one after the other up to `|`, a closing parenthesis or the end; `done` holds those already
read, the last one first. -/
def items : Nat → List (Nested Expr) → Read (List (Nested Expr))
  | 0, _ => failure
  | n + 1, done => do
    skipSpace
    if (← peek?).all (fun c => c = '|' || c = ')') then return done.reverse
    else
      match (← item n) with
      | none => items n (⟨.blank, 0⟩ :: done)
      | some e => items n ((← repetitions n e) :: done)

/-- One item without its repetition marks; switches are an item without an expression. -/
def item : Nat → Read (Option (Nested Expr))
  | 0 => failure
  | n + 1 => do
    let outer ← flags
    match (← peek) with
    | '(' =>
      match (← groupOpening) with
      | .switches flags =>
        setFlags flags
        return none
      | .group number flags =>
        setFlags flags
        let e := choice (← alternatives n)
        expect ')'
        setFlags outer
        return some ⟨number.elim e.value (.group · e.value), e.depth + 1⟩
    | '[' =>
      let k ← bracketed n
      return some ⟨.chars k.value, k.depth⟩
    | '\\' =>
      let p ← escape
      return some ⟨primitiveExpr outer p, 0⟩
    | '.' =>
      bump 1
      return some ⟨.chars (← dot), 0⟩
    | '^' =>
      bump 1
      return some ⟨.assertion (if outer.multiLine then .lineStart outer.crlf else .textStart), 0⟩
    | '$' =>
      bump 1
      return some ⟨.assertion (if outer.multiLine then .lineEnd outer.crlf else .textEnd), 0⟩
    | '?' => failure
    | '*' => failure
    | '+' => failure
    | '\x7b' => failure
    | c =>
      bump 1
      return some ⟨primitiveExpr outer (.literal c), 0⟩

end

def whole? (source : List Char) : Option (Nested Expr) := do
  let (es, s) ← (alternatives (4 * source.length + 8)).run { rest := source }
  if s.rest.isEmpty then return choice es else none

end Read

/-- How deep the parts of a pattern may be nested. -/
def nestingLimit : Nat := 250

def Expr.read? (source : List Char) : Option Expr := do
  let e ← Read.whole? source
  if e.depth ≤ nestingLimit then return e.value else none

end Pattern
end StoryLoom
