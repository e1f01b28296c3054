import StoryLoom.Text.Blank

/-!
# Input — what is left to read of a written pattern

- `Flags` : the switches that a pattern may set for the rest of its group
- `Input` : the characters left, the switches in force and the groups so far
- `Read`  : steps of reading, which fail on a malformed pattern
- `hexDigits`, `bracedHex`, `decimal?` : numbers

Where the switch for it is on, blanks and comments may stand between most characters.
-/

namespace StoryLoom
namespace Pattern

structure Flags where
  caseless : Bool := false
  multiLine : Bool := false
  dotAll : Bool := false
  spaced : Bool := false
  crlf : Bool := false
  /-- Repetitions are lazy unless a mark makes them greedy. -/
  lazyFirst : Bool := false
  /-- Sets know the characters below 128 alone. -/
  asciiOnly : Bool := false
  deriving DecidableEq, Repr

structure Input where
  rest : List Char
  flags : Flags := {}
  /-- The names of groups so far. -/
  names : List (List Char) := []
  /-- How many groups have a number so far. -/
  groups : Nat := 0

/-- A step of reading: it fails on a malformed pattern. -/
abbrev Read := StateT Input Option

namespace Read

/-! ## Characters -/

/-- Text without the blanks and comments in front. A comment runs from `#` to the end of its line. -/
def dropSpace (inComment : Bool) : List Char → List Char
  | [] => []
  | c :: rest =>
    if inComment then dropSpace (c != '\n') rest
    else if c = '#' then dropSpace true rest
    else if Text.isBlank c then dropSpace false rest
    else c :: rest

def flags : Read Flags := do
  return (← get).flags

def setFlags (flags : Flags) : Read Unit :=
  modify fun s => { s with flags := flags }

/-- Skip blanks and comments where the switch for it is on. -/
def skipSpace : Read Unit :=
  modify fun s => if s.flags.spaced then { s with rest := dropSpace false s.rest } else s

def peek? : Read (Option Char) := do
  return (← get).rest.head?

def peek : Read Char := do
  match (← get).rest with
  | [] => failure
  | c :: _ => return c

def bump (n : Nat) : Read Unit :=
  modify fun s => { s with rest := s.rest.drop n }

def bumpSpace : Read Unit := do
  bump 1
  skipSpace

/-- Drop a character and the space after it; fails at the end. -/
def bumpInside : Read Unit := do
  bumpSpace
  let _ ← peek

def accept (text : String) : Read Bool := do
  let s ← get
  if text.toList.isPrefixOf s.rest then
    bump text.length
    return true
  else
    return false

def expect (c : Char) : Read Unit := do
  if (← peek) = c then bump 1 else failure

/-! ## Numbers -/

def hexValue? (c : Char) : Option Nat :=
  if '0' ≤ c && c ≤ '9' then some (c.toNat - '0'.toNat)
  else if 'a' ≤ c && c ≤ 'f' then some (c.toNat - 'a'.toNat + 10)
  else if 'A' ≤ c && c ≤ 'F' then some (c.toNat - 'A'.toNat + 10)
  else none

def charOf (n : Nat) : Read Char :=
  if n.isValidChar then return Char.ofNat n else failure

def hexDigits : Nat → Nat → Read Nat
  | 0, value => return value
  | n + 1, value => do
    match hexValue? (← peek) with
    | none => failure
    | some d =>
      if n = 0 then bumpSpace else bumpInside
      hexDigits n (value * 16 + d)

/-- Hexadecimal digits up to a closing brace, at least one of them. -/
def bracedHex : Nat → Nat → Bool → Read Nat
  | 0, _, _ => failure
  | n + 1, value, some? => do
    match (← peek) with
    | '\x7d' =>
      bumpSpace
      if some? then return value else failure
    | c =>
      match hexValue? c with
      | none => failure
      | some d =>
        bumpSpace
        bracedHex n (value * 16 + d) true

def skipBlanks : Read Unit :=
  modify fun s => { s with rest := s.rest.dropWhile Text.isBlank }

def decimalDigits : Nat → Nat → Read Nat
  | 0, value => return value
  | n + 1, value => do
    match (← peek?) with
    | some c =>
      if c.isDigit then
        bumpSpace
        decimalDigits n (value * 10 + (c.toNat - '0'.toNat))
      else return value
    | none => return value

/-- A decimal number below 2^32 between blanks; `none` if there is no digit. -/
def decimal? : Read (Option Nat) := do
  skipBlanks
  match (← peek?) with
  | some c =>
    if c.isDigit then
      let value ← decimalDigits (← get).rest.length 0
      skipBlanks
      skipSpace
      if value < 1 <<< 32 then return some value else failure
    else return none
  | none => return none

end Read
end Pattern
end StoryLoom
