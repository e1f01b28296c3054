import StoryLoom.Story.Binding

/-!
# Dialogue — the lines of conversations

- `Speaker`      : the two parties of a conversation
- `DialogueLine` : a line with its replies
-/

namespace StoryLoom

inductive Speaker
  | player
  | npc
  deriving DecidableEq, Repr

namespace Speaker

/-- The party that replies. -/
def other : Speaker → Speaker
  | player => npc
  | npc => player

/-- What generated code calls a party. -/
def code : Speaker → String
  | npc => "2"
  | player => "1"

end Speaker

structure DialogueLine where
  id : LineId := ⟨0⟩
  text : String
  speaker : Speaker
  enabled : Bool := true
  parent : Option LineId := none
  children : List LineId := []
  /-- The variable of the voice clip. -/
  audio : Option ComponentId := none
  /-- The variable of the portrait. -/
  image : Option ComponentId := none
  deriving DecidableEq, Repr

/-- A line without a parent opens a conversation. -/
def DialogueLine.isRoot (l : DialogueLine) : Bool :=
  l.parent.isNone

end StoryLoom
