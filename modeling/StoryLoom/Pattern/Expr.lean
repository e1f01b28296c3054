import StoryLoom.Pattern.CharSet

/-!
# Expr — regular expressions over characters

- `Assertion` : conditions on the characters before and after a position
- `Expr`      : regular expressions

A position is known by the character before it and the character after it; both ends of a text have
none.
-/

namespace StoryLoom
namespace Pattern

/-- Conditions on a position. Those on words know all characters of words or, where `ascii` is set, those
below 128 alone. -/
inductive Assertion
  | textStart
  | textEnd
  | lineStart (crlf : Bool)
  | lineEnd (crlf : Bool)
  | wordEdge (ascii : Bool)
  | wordInterior (ascii : Bool)
  | wordStart (ascii : Bool)
  | wordEnd (ascii : Bool)
  | wordStartHalf (ascii : Bool)
  | wordEndHalf (ascii : Bool)
  deriving DecidableEq, Repr

def isWordAt (ascii : Bool) : Option Char → Bool
  | none => false
  | some c => if ascii then CharSet.asciiWord.mem c else Unicode.isWord c

def Assertion.holds (before after : Option Char) : Assertion → Bool
  | .textStart => before.isNone
  | .textEnd => after.isNone
  | .lineStart false => before.isNone || before == some '\n'
  | .lineStart true =>
    before.isNone || before == some '\n' || (before == some '\r' && after != some '\n')
  | .lineEnd false => after.isNone || after == some '\n'
  | .lineEnd true =>
    after.isNone || after == some '\r' || (after == some '\n' && before != some '\r')
  | .wordEdge ascii => isWordAt ascii before != isWordAt ascii after
  | .wordInterior ascii => isWordAt ascii before == isWordAt ascii after
  | .wordStart ascii => !isWordAt ascii before && isWordAt ascii after
  | .wordEnd ascii => isWordAt ascii before && !isWordAt ascii after
  | .wordStartHalf ascii => !isWordAt ascii before
  | .wordEndHalf ascii => !isWordAt ascii after

inductive Expr
  /-- The empty text. -/
  | blank
  /-- One character of a set. -/
  | chars (k : CharSet)
  /-- The empty text in a place that satisfies a condition. -/
  | assertion (a : Assertion)
  /-- Expressions one after the other. -/
  | seq (parts : List Expr)
  /-- One of several expressions. -/
  | alt (branches : List Expr)
  /-- At least `least` times an expression, and at most `most` times if there is a bound. A lazy
  repetition prefers fewer times, which changes no text that matches. -/
  | repeated (least : Nat) (most : Option Nat) (lazy : Bool) (e : Expr)
  /-- An expression in a group with a number. -/
  | group (index : Nat) (e : Expr)
  deriving Repr

end Pattern
end StoryLoom
