/-!
# Binding — identities of story objects and the values of variables

- `ComponentId`, `CodeBlockId`, `LineId` : the numbers that objects are known by
- `Resource` : a value of the game, such as a number, a text or an object's tag
- `Binding`  : the value attached to a variable
-/

namespace StoryLoom

structure ComponentId where
  number : Nat
  deriving DecidableEq, Repr

structure CodeBlockId where
  number : Nat
  deriving DecidableEq, Repr

/-- The number of a dialogue line, which generated code uses as well. -/
structure LineId where
  number : Nat
  deriving DecidableEq, Repr

def ComponentId.describe (id : ComponentId) : String :=
  "#" ++ toString id.number

def CodeBlockId.describe (id : CodeBlockId) : String :=
  "block #" ++ toString id.number

def LineId.describe (id : LineId) : String :=
  "line #" ++ toString id.number

structure Resource where
  name : String
  /-- The text that code is generated from, before escaping. -/
  codeText : String
  types : List String := []
  templateId : Option String := none
  deriving DecidableEq, Repr

inductive Binding
  | unbound
  | resource (r : Resource)
  /-- Another variable. -/
  | reference (id : ComponentId)
  /-- A call of a script. -/
  | function (id : ComponentId)
  | storyPoint (id : ComponentId)
  /-- A variable declared elsewhere that has no value yet. -/
  | uninitialized (id : ComponentId)
  /-- A conversation, known by the line that opens it. -/
  | dialogue (id : LineId)
  deriving DecidableEq, Repr

namespace Binding

def kindName : Binding → String
  | unbound => "unbound"
  | resource _ => "resource"
  | reference _ => "reference"
  | function _ => "function"
  | storyPoint _ => "story point"
  | uninitialized _ => "uninitialized"
  | dialogue _ => "dialogue"

def isBound : Binding → Bool
  | unbound => false
  | _ => true

def target? : Binding → Option ComponentId
  | unbound => none
  | resource _ => none
  | reference id => some id
  | function id => some id
  | storyPoint id => some id
  | uninitialized id => some id
  | dialogue _ => none

end Binding
end StoryLoom
