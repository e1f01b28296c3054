import StoryLoom.Graph.Walk
import StoryLoom.Story.Model

/-!
# OwnerChain — the components that enclose a component

- `enclosingFrom` : the search along the owner chain, with the numbers already passed
- `enclosing?`    : the first component of the chain, itself included, with a property

A chain may be cyclic in a story that was read. The search stops at the first number it meets again.
-/

namespace StoryLoom
namespace StoryModel

/-- The search along the owner chain. -/
def enclosingFrom (m : StoryModel) (holds : Component → Bool) (passed : List ComponentId)
    (id : ComponentId) : Option Component :=
  match _h : m.components.get? id with
  | none => none
  | some c =>
    if holds c then some c
    else if _hp : c.id ∈ passed then none
    else
      match c.owner with
      | none => none
      | some owner => m.enclosingFrom holds (c.id :: passed) owner
termination_by (m.components.values.map Component.id).countP (fun n => n ∉ passed)
decreasing_by
  apply Graph.Links.countP_notMem_cons_lt _ _hp
  have hm := Table.mem_of_lookup _h
  exact List.mem_map_of_mem (List.mem_map_of_mem (f := Prod.snd) hm)

/-- The first component of the owner chain of `id`, itself included, with a property. -/
def enclosing? (m : StoryModel) (id : ComponentId) (holds : Component → Bool) : Option Component :=
  m.enclosingFrom holds [] id

end StoryModel
end StoryLoom
