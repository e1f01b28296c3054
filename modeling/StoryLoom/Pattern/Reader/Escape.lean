import StoryLoom.Pattern.Expr
import StoryLoom.Pattern.Reader.Input

/-!
# Escape — what a backslash introduces

- `Primitive` : a character, a set or a condition on a position
- `property?` : the sets of `\p` and `\P` by name
- `escape`    : one escape

Where sets know the characters below 128 alone, an escape of two hexadecimal digits stands for a byte,
a set has no complement, and there are no sets by property. Of the properties only those have a name here
whose tables are at hand: a pattern that names a script or another category is refused.
-/

namespace StoryLoom
namespace Pattern

/-- A set as the switches for case make it. -/
def Flags.fold (flags : Flags) (k : CharSet) : CharSet :=
  if !flags.caseless then k
  else if flags.asciiOnly then k.asciiCaseless
  else k.caseless

namespace Read

inductive Primitive
  | literal (c : Char)
  | set (k : CharSet)
  | assertion (a : Assertion)

/-- The set itself or its complement. The characters below 128 have no complement among themselves. -/
def negateIf (negated : Bool) (k : CharSet) : Read CharSet := do
  if !negated then return k
  else if (← flags).asciiOnly then failure
  else return k.complement

/-- Characters that have a meaning in some place of a pattern. -/
def isMeta (c : Char) : Bool :=
  "\\.+*?()|[]\x7b\x7d^$#&-~".toList.contains c

def isEscapable (c : Char) : Bool :=
  isMeta c || (c.toNat < 128 && !c.isAlphanum && c != '<' && c != '>')

/-! ## Properties -/

def dropIs : List Char → List Char
  | a :: b :: rest => if a.toLower = 'i' && b.toLower = 's' then rest else a :: b :: rest
  | name => name

/-- A property's name as it is looked up: without a leading `is`, spaces, `_`, `-` and all characters
from 128 on, in lower case. -/
def plainName (name : List Char) : String :=
  let kept := (dropIs name).filter fun c => c.toNat < 128 && !(c = ' ' || c = '_' || c = '-')
  String.ofList (kept.map Char.toLower)

def category? (name : List Char) : Option CharSet :=
  match plainName name with
  | "l" | "letter" => some .letter
  | "lu" | "uppercaseletter" => some .capital
  | "ll" | "lowercaseletter" => some .small
  | "nd" | "decimalnumber" | "digit" => some .digit
  | "any" => some (CharSet.complement .nothing)
  | "ascii" => some .ascii
  | _ => none

/-- The set of a property name, or of the name of the general category and a value for it. -/
def property? (name : List Char) : Option CharSet :=
  let key := name.takeWhile fun c => c != '=' && c != ':'
  match name.dropWhile fun c => c != '=' && c != ':' with
  | [] =>
    match plainName name with
    | "whitespace" | "wspace" | "space" => some .blank
    | _ => category? name
  | _ :: value =>
    if ["gc", "generalcategory"].contains (plainName key) then category? value else none

def bracedName : Nat → List Char → Read (List Char)
  | 0, _ => failure
  | n + 1, name => do
    match (← peek) with
    | '\x7d' =>
      bump 1
      return name.reverse
    | c =>
      bumpSpace
      bracedName n (c :: name)

def propertySet (negated : Bool) (name : List Char) : Read Primitive := do
  let flags ← flags
  if flags.asciiOnly then failure
  else
    match property? name with
    | none => failure
    | some k => return .set (← negateIf negated (flags.fold k))

def property (negated : Bool) : Read Primitive := do
  bumpInside
  match (← peek) with
  | '\x7b' =>
    bumpSpace
    let name ← bracedName ((← get).rest.length + 1) []
    propertySet negated name
  | '\\' => failure
  | c =>
    bumpSpace
    propertySet negated [c]

/-! ## Conditions on words -/

def boundary? (ascii : Bool) (name : List Char) : Option Assertion :=
  match String.ofList name with
  | "start" => some (.wordStart ascii)
  | "end" => some (.wordEnd ascii)
  | "start-half" => some (.wordStartHalf ascii)
  | "end-half" => some (.wordEndHalf ascii)
  | _ => none

def boundaryName : Nat → List Char → Read (List Char)
  | 0, name => return name.reverse
  | n + 1, name => do
    match (← peek?) with
    | some c =>
      if c.isAlpha || c == '-' then
        bumpSpace
        boundaryName n (c :: name)
      else return name.reverse
    | none => return name.reverse

def namedBoundary (ascii : Bool) : Read Primitive := do
  let name ← boundaryName (← get).rest.length []
  expect '\x7d'
  match boundary? ascii name with
  | none => failure
  | some a => return .assertion a

/-- What follows `\b`: nothing, or the name of a boundary in braces. A brace before anything but a
letter or a hyphen is left for a repetition. -/
def wordBoundary : Read Primitive := do
  let before ← get
  let ascii := before.flags.asciiOnly
  if (← peek?) = some '\x7b' then
    bumpInside
    let c ← peek
    if c.isAlpha || c == '-' then namedBoundary ascii
    else
      set before
      return .assertion (.wordEdge ascii)
  else
    return .assertion (.wordEdge ascii)

/-! ## Escapes -/

def hexEscape (digits : Nat) : Read Primitive := do
  bumpInside
  if (← peek) = '\x7b' then
    bumpSpace
    return .literal (← charOf (← bracedHex ((← get).rest.length + 1) 0 false))
  else
    let value ← hexDigits digits 0
    if digits = 2 && 128 ≤ value && (← flags).asciiOnly then failure
    else return .literal (← charOf value)

/-- The set of a letter for digits, blanks or words. -/
def classLetter (negated : Bool) (all ascii : CharSet) : Read Primitive := do
  return .set (← negateIf negated (if (← flags).asciiOnly then ascii else all))

def escape : Read Primitive := do
  bump 1
  let c ← peek
  match c with
  | 'x' => hexEscape 2
  | 'u' => hexEscape 4
  | 'U' => hexEscape 8
  | 'p' => property false
  | 'P' => property true
  | _ =>
    bump 1
    let ascii := (← flags).asciiOnly
    match c with
    | 'd' => classLetter false .digit .asciiDigit
    | 'D' => classLetter true .digit .asciiDigit
    | 's' => classLetter false .blank .asciiBlank
    | 'S' => classLetter true .blank .asciiBlank
    | 'w' => classLetter false .word .asciiWord
    | 'W' => classLetter true .word .asciiWord
    | 'a' => return .literal '\x07'
    | 'f' => return .literal '\x0c'
    | 't' => return .literal '\t'
    | 'n' => return .literal '\n'
    | 'r' => return .literal '\r'
    | 'v' => return .literal '\x0b'
    | 'A' => return .assertion .textStart
    | 'z' => return .assertion .textEnd
    | 'b' => wordBoundary
    | 'B' => return .assertion (.wordInterior ascii)
    | '<' => return .assertion (.wordStart ascii)
    | '>' => return .assertion (.wordEnd ascii)
    | _ => if isEscapable c then return .literal c else failure

end Read
end Pattern
end StoryLoom
