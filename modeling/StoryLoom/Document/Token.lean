import StoryLoom.Document.Value

/-!
# Token — the words of a document

- `Token`          : names, numbers, texts, characters and marks
- `quoted`, `raw`  : texts with and without escapes
- `numeral`        : the numbers
- `tokens`         : the tokens of a text, without blanks and comments

Texts, numbers and names are as long as the text allows; blanks and comments may stand between any two
tokens. There is no token for attributes, so a document that begins with one is refused.
-/

namespace StoryLoom
namespace Document

inductive Token
  | name (name : Name)
  /-- A number, with its value if it is a natural number written without a sign. -/
  | number (natural : Option Nat)
  | text (text : String)
  | char (c : Char)
  /-- One of the marks `( ) [ ] { } , :`. -/
  | mark (c : Char)
  deriving DecidableEq, Repr

/-! ## Characters -/

def isBlank (c : Char) : Bool :=
  c = ' ' || c = '\t' || c = '\n' || c = '\r'

def startsName (c : Char) : Bool :=
  c.isAlpha || c = '_'

def continuesName (c : Char) : Bool :=
  c.isAlphanum || c = '_'

def inMarkedName (c : Char) : Bool :=
  continuesName c || c = '.' || c = '+' || c = '-'

def isMark (c : Char) : Bool :=
  c = '(' || c = ')' || c = '[' || c = ']' || c = '\x7b' || c = '\x7d' || c = ',' || c = ':'

def hexDigit? (c : Char) : Option Nat :=
  if c.isDigit then some (c.toNat - '0'.toNat)
  else if 'a' ≤ c && c ≤ 'f' then some (c.toNat - 'a'.toNat + 10)
  else if 'A' ≤ c && c ≤ 'F' then some (c.toNat - 'A'.toNat + 10)
  else none

def character? (n : Nat) : Option Char :=
  if n < 0xD800 || (0xE000 ≤ n && n < 0x110000) then some (Char.ofNat n) else none

/-! ## Texts -/

/-- Where reading a text with escapes stands. -/
inductive Place
  | plain
  /-- After a backslash. -/
  | escape
  /-- In an escape of two digits, after none or after the first. -/
  | byte (first : Option Nat)
  /-- In front of the brace of an escape by number. -/
  | brace
  /-- In an escape by number, after some digits with a value. -/
  | code (digits value : Nat)

def escaped? (c : Char) : Option Char :=
  match c with
  | '\'' => some '\''
  | '"' => some '"'
  | '\\' => some '\\'
  | 'n' => some '\n'
  | 'r' => some '\r'
  | 't' => some '\t'
  | '0' => some '\x00'
  | _ => none

/-- Read a text with escapes up to its closing mark; what was read stands in reverse in front. -/
def quoted (close : Char) : Place → List Char → List Char → Option (List Char × List Char)
  | _, _, [] => none
  | .plain, read, c :: rest =>
    if c = close then some (read.reverse, rest)
    else if c = '\\' then quoted close .escape read rest
    else quoted close .plain (c :: read) rest
  | .escape, read, c :: rest =>
    if c = 'x' then quoted close (.byte none) read rest
    else if c = 'u' then quoted close .brace read rest
    else
      match escaped? c with
      | some d => quoted close .plain (d :: read) rest
      | none => none
  | .byte none, read, c :: rest =>
    match hexDigit? c with
    | some d => quoted close (.byte (some d)) read rest
    | none => none
  | .byte (some first), read, c :: rest =>
    match hexDigit? c with
    | some d => quoted close .plain (Char.ofNat (16 * first + d) :: read) rest
    | none => none
  | .brace, read, c :: rest =>
    if c = '\x7b' then quoted close (.code 0 0) read rest else none
  | .code digits value, read, c :: rest =>
    if c = '\x7d' then
      if digits = 0 then none
      else
        match character? value with
        | some d => quoted close .plain (d :: read) rest
        | none => none
    else if digits = 6 then none
    else
      match hexDigit? c with
      | some d => quoted close (.code (digits + 1) (16 * value + d)) read rest
      | none => none

def raw (hashes : Nat) : List Char → List Char → Option (List Char × List Char)
  | _, [] => none
  | read, c :: rest =>
    if c = '"' && rest.take hashes = List.replicate hashes '#' then
      some (read.reverse, rest.drop hashes)
    else raw hashes (c :: read) rest

/-- The token of a text without escapes, read after its letter. -/
def rawText (cs : List Char) : Option (Token × List Char) :=
  let hashes := (cs.takeWhile (· = '#')).length
  match cs.drop hashes with
  | '"' :: rest => (raw hashes [] rest).map fun (text, rest) => (.text (String.ofList text), rest)
  | _ => none

/-! ## Numbers -/

def inWhole (c : Char) : Bool :=
  (hexDigit? c).isSome || c = '_'

def inFraction (c : Char) : Bool :=
  c.isDigit || c = 'e' || c = 'E' || c = '.' || c = '+' || c = '-' || c = '_'

/-- The value of digits to a base; underscores count for nothing. -/
def valueOf? (base : Nat) (cs : List Char) : Option Nat :=
  (cs.filter (· != '_')).foldlM
    (fun value c => (hexDigit? c).bind fun d => if d < base then some (base * value + d) else none) 0

/-- Read a whole number without a sign. It does not start with an underscore. -/
def whole (cs : List Char) : Option (Nat × List Char) :=
  let (base, cs) :=
    match cs with
    | '0' :: 'x' :: rest => (16, rest)
    | '0' :: 'b' :: rest => (2, rest)
    | '0' :: 'o' :: rest => (8, rest)
    | _ => (10, cs)
  let digits := cs.takeWhile inWhole
  if digits.isEmpty || digits.head? = some '_' then none
  else (valueOf? base digits).map fun n => (n, cs.dropWhile inWhole)

def unsigned (cs : List Char) : List Char :=
  match cs with
  | '+' :: rest => rest
  | '-' :: rest => rest
  | _ => cs

def isExponent (cs : List Char) : Bool :=
  match cs with
  | [] => true
  | c :: rest =>
    (c = 'e' || c = 'E') && !(unsigned rest).isEmpty && (unsigned rest).all Char.isDigit

def isFraction (cs : List Char) : Bool :=
  let body := unsigned cs
  let before := body.takeWhile Char.isDigit
  match body.dropWhile Char.isDigit with
  | '.' :: rest =>
    (!before.isEmpty || !(rest.takeWhile Char.isDigit).isEmpty) &&
      isExponent (rest.dropWhile Char.isDigit)
  | rest => !before.isEmpty && isExponent rest

def fraction (cs : List Char) : Option (Option Nat × List Char) :=
  if isFraction (cs.takeWhile inFraction) then some (none, cs.dropWhile inFraction) else none

def endless : List (List Char) :=
  ["inf".toList, "NaN".toList]

/-- Read a number. One that is too long for a whole number of 64 bits is taken for another. -/
def numeral (cs : List Char) : Option (Option Nat × List Char) :=
  let body := unsigned cs
  let signed := body.length < cs.length
  if signed && endless.contains (body.takeWhile continuesName) then
    some (none, body.dropWhile continuesName)
  else if (body.takeWhile inWhole).length < (body.takeWhile inFraction).length then fraction cs
  else
    match whole body with
    | some (n, rest) =>
      if !signed then if n < 1 <<< 64 then some (some n, rest) else fraction cs
      else if n < 1 <<< 63 || (cs.head? = some '-' && n = 1 <<< 63) then some (none, rest)
      else fraction cs
    | none => fraction cs

/-! ## Blanks and comments -/

/-- The text after so many open comments. -/
def afterComment : Nat → List Char → Option (List Char)
  | 0, cs => some cs
  | _ + 1, [] => none
  | level + 1, '/' :: '*' :: rest => afterComment (level + 2) rest
  | level + 1, '*' :: '/' :: rest => afterComment level rest
  | level + 1, _ :: rest => afterComment (level + 1) rest

/-- The text after a comment, read after its slash. -/
def afterSlash (cs : List Char) : Option (List Char) :=
  match cs with
  | '/' :: rest => some (rest.dropWhile (· != '\n'))
  | '*' :: rest => afterComment 1 rest
  | _ => none

/-! ## Tokens -/

def plainName (cs : List Char) : Option (Token × List Char) :=
  if (cs.takeWhile inMarkedName).length = (cs.takeWhile continuesName).length then
    some (.name ⟨String.ofList (cs.takeWhile continuesName), false⟩, cs.dropWhile continuesName)
  else none

/-- Read a marked name after its mark. -/
def markedName (cs : List Char) : Token × List Char :=
  (.name ⟨String.ofList (cs.takeWhile inMarkedName), true⟩, cs.dropWhile inMarkedName)

/-- Read a token that starts with the letter of raw texts and marked names, after this letter. -/
def afterLetter (cs : List Char) : Option (Token × List Char) :=
  match cs with
  | '"' :: _ => rawText cs
  | '#' :: c :: rest => if inMarkedName c then some (markedName (c :: rest)) else rawText cs
  | '#' :: [] => none
  | _ => plainName ('r' :: cs)

def token (cs : List Char) : Option (Token × List Char) :=
  match cs with
  | [] => none
  | c :: rest =>
    if isMark c then some (.mark c, rest)
    else if c = '"' then
      (quoted '"' .plain [] rest).map fun (text, rest) => (.text (String.ofList text), rest)
    else if c = '\'' then
      match quoted '\'' .plain [] rest with
      | some ([c], rest) => some (.char c, rest)
      | _ => none
    else if c = 'r' then afterLetter rest
    else if startsName c then plainName cs
    else if c.isDigit || c = '+' || c = '-' || c = '.' then
      (numeral cs).map fun (natural, rest) => (.number natural, rest)
    else none

/-- The tokens of a text, read in at most so many steps. -/
def tokensUpTo : Nat → List Char → Option (List Token)
  | 0, _ => none
  | _ + 1, [] => some []
  | steps + 1, c :: rest =>
    if isBlank c then tokensUpTo steps rest
    else if c = '/' then (afterSlash rest).bind (tokensUpTo steps)
    else (token (c :: rest)).bind fun (t, rest) => (tokensUpTo steps rest).map (t :: ·)

def tokens (text : String) : Option (List Token) :=
  tokensUpTo (text.length + 1) text.toList

end Document
end StoryLoom
