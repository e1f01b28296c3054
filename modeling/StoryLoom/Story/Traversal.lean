import StoryLoom.Graph.Walk
import StoryLoom.Story.Model

/-!
# Traversal — the orders in which a story is walked

- `storyLinks`, `childLinks`, `replyLinks` : the three graphs of a story
- `storyPoints`         : story points from the root, depth first
- `orderedStoryPoints`  : story points from the root, breadth first
- `descendants`         : what is below a component
- `allComponents`       : what is below the story points, in story order
- `orderedLines`        : a line and what is below it
- `parentsOf`           : the story points that lead to a component
-/

namespace StoryLoom
namespace StoryModel

def storyLinks (m : StoryModel) : Graph.Links ComponentId where
  next id := ((m.component? id).bind Component.storyPoint?).elim [] StoryPoint.successors
  sources := m.components.keys
  next_eq_nil a h := by
    simp [component?, Table.get?_eq_none_iff.2 h]

def childLinks (m : StoryModel) : Graph.Links ComponentId where
  next id := (m.component? id).elim [] Component.childIds
  sources := m.components.keys
  next_eq_nil a h := by
    simp [component?, Table.get?_eq_none_iff.2 h]

def replyLinks (m : StoryModel) : Graph.Links LineId where
  next id := ((m.line? id).elim [] DialogueLine.children).filter (fun r => m.lines.contains r)
  sources := m.lines.keys
  next_eq_nil a h := by
    simp [line?, Table.get?_eq_none_iff.2 h]

/-- The story points reached from the root, depth first. -/
def storyPoints (m : StoryModel) : List ComponentId :=
  m.storyLinks.depthFirst m.root

/-- The story points reached from the root, breadth first: each comes after one that leads to it. -/
def orderedStoryPoints (m : StoryModel) : List ComponentId :=
  m.storyLinks.breadthFirst m.root

/-- The components below a component, each followed by what is below it. -/
def descendants (m : StoryModel) (id : ComponentId) : List ComponentId :=
  (m.childLinks.depthFirst id).tail

/-- The components below the story points, in story order. -/
def allComponents (m : StoryModel) : List ComponentId :=
  m.storyPoints.flatMap m.descendants

/-- A line followed by the lines below it. -/
def orderedLines (m : StoryModel) (id : LineId) : List LineId :=
  if m.lines.contains id then m.replyLinks.depthFirst id else []

def parentsOf (m : StoryModel) (id : ComponentId) : List ComponentId :=
  m.storyPoints.filter (fun point => (m.storyLinks.next point).contains id)

end StoryModel
end StoryLoom
