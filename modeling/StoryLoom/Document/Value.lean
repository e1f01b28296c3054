/-!
# Value — documents as trees

- `Value`           : numbers, texts, words, lists, maps, tuples and records
- `Value.levels`    : how many levels a value opens
- `DocumentLibrary` : reading the tree of a document

How a document is written is left to a library, of which nothing else is known here than the trees that it
reads and how deep it goes into them.
-/

namespace StoryLoom
namespace Document

/-- A name. One that is marked as a name is never a word of the language itself. -/
structure Name where
  text : String
  marked : Bool := false
  deriving DecidableEq, Repr

/-- The tree of a document. Tuples and records may have a name in front. -/
inductive Value
  /-- A number, with its value if it is a natural number written without a sign. -/
  | number (natural : Option Nat)
  | text (text : String)
  | char (c : Char)
  /-- A name that stands alone. -/
  | word (name : Name)
  /-- The value of an option that has one. -/
  | present (inner : Value)
  | list (items : List Value)
  | map (pairs : List (Value × Value))
  | tuple (name : Option String) (items : List Value)
  | record (name : Option String) (fields : List (String × Value))
  deriving Repr

/-! ## Levels -/

mutual

/-- How many levels a value opens: one for its brackets and one for each entry on the way to the
deepest value inside. An empty tuple without a name opens none. -/
def Value.levels : Value → Nat
  | .number _ => 0
  | .text _ => 0
  | .char _ => 0
  | .word _ => 0
  | .present inner => inner.levels + 1
  | .list items => levelsOf items + 1
  | .map pairs => levelsOfPairs pairs + 1
  | .tuple none [] => 0
  | .tuple _ items => levelsOf items + 1
  | .record _ fields => levelsOfFields fields + 1

def levelsOf : List Value → Nat
  | [] => 0
  | v :: rest => max (v.levels + 1) (levelsOf rest)

def levelsOfPairs : List (Value × Value) → Nat
  | [] => 0
  | (k, v) :: rest => max (max k.levels v.levels + 1) (levelsOfPairs rest)

def levelsOfFields : List (String × Value) → Nat
  | [] => 0
  | (_, v) :: rest => max (v.levels + 1) (levelsOfFields rest)

end

end Document

class DocumentLibrary where
  value : String → Option Document.Value
  /-- How many levels of a tree may be open at once while data is read from it. -/
  levelLimit : Nat

end StoryLoom
