import StoryLoom.Table

/-!
# Escapes — writing values with escapes and without illegal characters

- `Token`       : a registered sequence or a single character
- `tokens`      : the tokens of a value, at each place the longest sequence that starts there
- `escapeValue` : the value with the escapes put in and the rejected characters left out

A sequence is written whole, so that a rejected character never breaks one apart.
-/

namespace StoryLoom
namespace Escapes

/-- A registered sequence with the mark put in front of it. -/
structure Entry where
  sequence : List Char
  mark : List Char
  deriving DecidableEq, Repr

def entries (table : Table String String) : List Entry :=
  (table.entries.map (fun p => ⟨p.1.toList, p.2.toList⟩)).filter (fun e => !e.sequence.isEmpty)

/-- The longer of the best entry so far and an entry whose sequence starts the text. -/
def better (text : List Char) (best : Option Entry) (e : Entry) : Option Entry :=
  if e.sequence.isPrefixOf text then
    match best with
    | none => some e
    | some b => if b.sequence.length < e.sequence.length then some e else some b
  else best

def longest? (table : List Entry) (text : List Char) : Option Entry :=
  table.foldl (better text) none

inductive Token
  | escaped (e : Entry)
  | plain (c : Char)
  deriving DecidableEq, Repr

/-- The tokens of a text after its first `n` characters, which belong to an earlier sequence. -/
def tokensAfter (table : List Entry) : Nat → List Char → List Token
  | _, [] => []
  | n + 1, _ :: rest => tokensAfter table n rest
  | 0, c :: rest =>
    match longest? table (c :: rest) with
    | some e => .escaped e :: tokensAfter table (e.sequence.length - 1) rest
    | none => .plain c :: tokensAfter table 0 rest

def tokens (table : List Entry) (text : List Char) : List Token :=
  tokensAfter table 0 text

def render (accepts : Char → Bool) : Token → List Char
  | .escaped e => e.mark ++ e.sequence
  | .plain c => if accepts c then [c] else []

/-- The value with a mark in front of every registered sequence and without the other characters
that are not accepted. -/
def escapeValue (value : String) (table : Table String String) (accepts : Char → Bool) : String :=
  String.ofList ((tokens (entries table) value.toList).flatMap (render accepts))

end Escapes
end StoryLoom
