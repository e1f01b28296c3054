import StoryLoom.Story.OwnerChain

/-!
# Keyed — objects that carry the number they are stored under

- `StoryModel.Keyed`       : every component, block and line carries its number
- `component?_of_enclosing?` : the search along the owner chain finds components of the story
-/

namespace StoryLoom
namespace StoryModel

/-- Every component, code block and line of a story carries the number it is stored under. -/
structure Keyed (m : StoryModel) : Prop where
  components : ∀ p ∈ m.components.entries, p.2.id = p.1
  codeBlocks : ∀ p ∈ m.codeBlocks.entries, p.2.id = p.1
  lines : ∀ p ∈ m.lines.entries, p.2.id = p.1

namespace Keyed

variable {m : StoryModel}

theorem component_id (keyed : m.Keyed) {id : ComponentId} {k : Component}
    (h : m.component? id = some k) : k.id = id :=
  keyed.components (id, k) (Table.get?_eq_some_iff.1 h)

/-- A component of the story is found under its own number. -/
theorem component?_id (keyed : m.Keyed) {id : ComponentId} {k : Component}
    (h : m.component? id = some k) : m.component? k.id = some k := by
  rwa [keyed.component_id h]

theorem codeBlock_id (keyed : m.Keyed) {id : CodeBlockId} {b : CodeBlock}
    (h : m.codeBlock? id = some b) : b.id = id :=
  keyed.codeBlocks (id, b) (Table.get?_eq_some_iff.1 h)

theorem line_id (keyed : m.Keyed) {id : LineId} {l : DialogueLine}
    (h : m.line? id = some l) : l.id = id :=
  keyed.lines (id, l) (Table.get?_eq_some_iff.1 h)

end Keyed

variable {m : StoryModel} {holds : Component → Bool} {k : Component}

theorem component?_of_enclosingFrom {passed : List ComponentId} {id : ComponentId}
    (h : m.enclosingFrom holds passed id = some k) : ∃ id, m.component? id = some k := by
  fun_induction enclosingFrom m holds passed id with
  | case1 passed id absent => cases h
  | case2 passed id c found here =>
    cases h
    exact ⟨id, found⟩
  | case3 passed id c found there seen => cases h
  | case4 passed id c found there new top => cases h
  | case5 passed id c found there new owner _ ih => exact ih h

/-- What encloses a component is stored. -/
theorem component?_of_enclosing? {id : ComponentId} (h : m.enclosing? id holds = some k) :
    ∃ id, m.component? id = some k :=
  component?_of_enclosingFrom h

end StoryModel
end StoryLoom
