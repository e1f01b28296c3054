import Mathlib.Data.List.Permutation
import StoryLoom.Proofs.Graph.Breadth
import StoryLoom.Proofs.Graph.Preorder
import StoryLoom.Proofs.Story.Descent

/-!
# Walks — what the walks through a story list, and in which order

- `LeadsTo`     : what follows a story point
- `story_walks` : the two walks over story points
- `walks_below` : the walks over what is below a component and below a line
-/

namespace StoryLoom
namespace StoryModel

open Relation (ReflTransGen TransGen)

/-! ## Links -/

/-- A story point is followed by another component. -/
def LeadsTo (m : StoryModel) (x y : ComponentId) : Prop :=
  ∃ c p, m.component? x = some c ∧ c.kind = .storyPoint p ∧ y ∈ p.successors

variable {m : StoryModel}

/-- The links walked are those of story points. -/
theorem step_storyLinks_iff {x y : ComponentId} : m.storyLinks.Step x y ↔ m.LeadsTo x y := by
  change y ∈ ((m.component? x).bind Component.storyPoint?).elim [] StoryPoint.successors ↔ _
  rw [LeadsTo]
  cases m.component? x with
  | none => simp
  | some c =>
    obtain ⟨id, text, owner, kind⟩ := c
    cases kind <;> simp [Component.storyPoint?]

/-- Of the replies of a line the walk takes those that exist. -/
theorem step_replyLinks_iff {x y : LineId} :
    m.replyLinks.Step x y ↔ m.HasReply x y ∧ (m.line? y).isSome = true := by
  change y ∈ ((m.line? x).elim [] DialogueLine.children).filter (fun r => (m.line? r).isSome) ↔ _
  rw [List.mem_filter, HasReply]
  cases m.line? x <;> simp

/-! ## Story points -/

/-- Both walks list each story point that can be reached once, after one that leads to it. One is the recursive
walk; the other marks what it queues, and goes by distance. -/
theorem story_walks (m : StoryModel) :
    m.storyPoints.Nodup ∧ m.orderedStoryPoints.Nodup ∧
    (∀ x, x ∈ m.storyPoints ↔ ReflTransGen m.LeadsTo m.root x) ∧
    (∀ x, x ∈ m.orderedStoryPoints ↔ ReflTransGen m.LeadsTo m.root x) ∧
    m.storyPoints = m.storyLinks.preorder m.root ∧
    m.storyLinks.Queued [m.root] [m.root] m.orderedStoryPoints ∧
    (m.orderedStoryPoints.Pairwise fun x y =>
      Graph.distance m.LeadsTo m.root x ≤ Graph.distance m.LeadsTo m.root y) ∧
    (∀ front x back, m.storyPoints = front ++ x :: back ∨ m.orderedStoryPoints = front ++ x :: back →
      x ≠ m.root → ∃ y ∈ front, m.LeadsTo y x) := by
  have steps : m.storyLinks.Step = m.LeadsTo := by
    funext x y
    exact propext step_storyLinks_iff
  refine ⟨Graph.Links.nodup_depthFirst _ _, Graph.Links.nodup_breadthFirst _ _, ?_, ?_,
    Graph.Links.depthFirst_eq_preorder _ _, Graph.Links.queued_breadthFirst _ _, ?_, ?_⟩
  · intro x
    rw [← steps]
    exact Graph.Links.mem_depthFirst_iff
  · intro x
    rw [← steps]
    exact Graph.Links.mem_breadthFirst_iff
  · rw [← steps]
    exact Graph.Links.pairwise_distance_breadthFirst _ _
  · intro front x back place other
    -- This holds of every walk that takes up successors of what it lists, in whatever order.
    have visited : ∃ out, m.storyLinks.Visits [m.root] [] out ∧ out = front ++ x :: back := by
      rcases place with place | place
      · exact ⟨m.storyPoints, Graph.Links.visits_depthFirstFrom _ _ _, place⟩
      · exact ⟨m.orderedStoryPoints, Graph.Links.visits_breadthFirstFrom _ _ _, place⟩
    rcases visited with ⟨out, visits, place⟩
    rcases visits.pending_or_follows place with root | ⟨y, before, step⟩
    · exact absurd (List.mem_singleton.1 root) other
    · exact ⟨y, before, step_storyLinks_iff.1 step⟩

/-- A story whose points cross: the start leads to two points, one of them twice, both lead to a third, and
from there one comes back to the start and to a point that does not exist. -/
def crossing : StoryModel where
  root := ⟨0⟩
  components := Table.ofList
    [(⟨0⟩, ⟨⟨0⟩, "Start", none, .storyPoint { successors := [⟨1⟩, ⟨2⟩, ⟨1⟩] }⟩),
      (⟨1⟩, ⟨⟨1⟩, "Left", none, .storyPoint { successors := [⟨3⟩] }⟩),
      (⟨2⟩, ⟨⟨2⟩, "Right", none, .storyPoint { successors := [⟨3⟩] }⟩),
      (⟨3⟩, ⟨⟨3⟩, "End", none, .storyPoint { successors := [⟨0⟩, ⟨4⟩] }⟩)]

/-- Both walks over a story in which two ways meet. -/
theorem crossing_walked :
    crossing.storyPoints = [⟨0⟩, ⟨1⟩] ++ ⟨3⟩ :: [⟨4⟩, ⟨2⟩] ∧
      crossing.orderedStoryPoints = [⟨0⟩, ⟨1⟩, ⟨2⟩] ++ ⟨3⟩ :: [⟨4⟩] ∧
      ⟨3⟩ ≠ crossing.root ∧ ∃ y ∈ [(⟨0⟩ : ComponentId), ⟨1⟩], crossing.LeadsTo y ⟨3⟩ := by
  have deep : crossing.storyPoints = [⟨0⟩, ⟨1⟩] ++ ⟨3⟩ :: [⟨4⟩, ⟨2⟩] := by cbv
  have broad : crossing.orderedStoryPoints = [⟨0⟩, ⟨1⟩, ⟨2⟩] ++ ⟨3⟩ :: [⟨4⟩] := by cbv
  have other : ⟨3⟩ ≠ crossing.root := by decide
  rcases crossing.story_walks with ⟨-, -, -, -, -, -, -, follows⟩
  exact ⟨deep, broad, other, follows _ _ _ (.inl deep) other⟩

/-! ## What is below a component, and below a line -/

/-- Below a component lies what is reached through lists of children. -/
theorem mem_descendants_iff_hasChild {id x : ComponentId} :
    x ∈ m.descendants id ↔ x ≠ id ∧ TransGen m.HasChild id x := by
  have steps : m.childLinks.Step = m.HasChild := by
    funext p c
    exact propext childStep_iff
  rw [mem_descendants_iff, steps, Relation.reflTransGen_iff_eq_or_transGen]
  exact and_congr_right fun other => or_iff_right other

/-- The walk below a component is the recursive one over its children, the component itself being seen. -/
theorem descendants_eq_preorderFrom (m : StoryModel) (id : ComponentId) :
    m.descendants id = m.childLinks.preorderFrom (m.childLinks.next id) [id] := by
  rw [descendants, Graph.Links.depthFirst, Graph.Links.depthFirstFrom_new _ List.not_mem_nil, List.tail_cons,
    List.append_nil, Graph.Links.depthFirstFrom_eq_preorderFrom]

/-- In a tree each child stands before what lies below it. -/
theorem descendants_of_tree {id : ComponentId} (tree : m.childLinks.TreeFrom id) :
    m.descendants id = (m.childLinks.next id).flatMap fun c => c :: m.descendants c := by
  rw [descendants, tree.depthFirst_eq, List.tail_cons]
  exact List.flatMap_congr fun c _ => Graph.Links.depthFirst_eq_cons _ c

/-- A way over replies to a line that exists goes over lines that exist. -/
theorem reflTransGen_hasReply_iff {id x : LineId} :
    (m.line? x).isSome = true ∧ ReflTransGen m.HasReply id x ↔
      (m.line? id).isSome = true ∧ ReflTransGen m.replyLinks.Step id x := by
  constructor
  · rintro ⟨there, path⟩
    -- From the end backwards: a line that has a reply exists.
    induction path using ReflTransGen.head_induction_on with
    | refl => exact ⟨there, .refl⟩
    | head reply _ ih =>
      rcases ih with ⟨next, path⟩
      have answers := reply
      rcases answers with ⟨l, hl, -⟩
      exact ⟨hl ▸ rfl, path.head (step_replyLinks_iff.2 ⟨reply, next⟩)⟩
  · rintro ⟨there, path⟩
    induction path with
    | refl => exact ⟨there, .refl⟩
    | tail _ step ih =>
      rcases step_replyLinks_iff.1 step with ⟨reply, next⟩
      exact ⟨next, ih.2.tail reply⟩

theorem orderedLines_of_line? {id : LineId} (there : (m.line? id).isSome = true) :
    m.orderedLines id = m.replyLinks.depthFirst id :=
  if_pos there

/-- A line that does not exist has no answers to list. -/
theorem orderedLines_of_none {id : LineId} (absent : m.line? id = none) : m.orderedLines id = [] := by
  apply if_neg
  change ¬ (m.line? id).isSome = true
  simp [absent]

/-- The stored lines reached through replies are listed. -/
theorem mem_orderedLines_iff {id x : LineId} : x ∈ m.orderedLines id ↔
    (m.line? x).isSome = true ∧ ReflTransGen m.HasReply id x := by
  rw [reflTransGen_hasReply_iff]
  cases there : m.line? id with
  | none => simp [orderedLines_of_none there]
  | some l =>
    rw [orderedLines_of_line? (there ▸ rfl), Graph.Links.mem_depthFirst_iff]
    simp

/-- None is listed twice. -/
theorem nodup_orderedLines (m : StoryModel) (id : LineId) : (m.orderedLines id).Nodup := by
  cases there : m.line? id with
  | none => simp [orderedLines_of_none there]
  | some l =>
    rw [orderedLines_of_line? (there ▸ rfl)]
    exact Graph.Links.nodup_depthFirst _ _

/-- A reply that does not exist has an empty list, so it may be left out. -/
theorem flatMap_orderedLines (m : StoryModel) (replies : List LineId) :
    (replies.filter fun r => (m.line? r).isSome).flatMap m.replyLinks.depthFirst =
      replies.flatMap m.orderedLines := by
  induction replies with
  | nil => rfl
  | cons r rest ih =>
    cases there : m.line? r with
    | none =>
      have lost : ¬ (m.line? r).isSome = true := by simp [there]
      rw [List.filter_cons, if_neg lost, ih, List.flatMap_cons, orderedLines_of_none there,
        List.nil_append]
    | some l =>
      have found : (m.line? r).isSome = true := there ▸ rfl
      rw [List.filter_cons, if_pos found, List.flatMap_cons, List.flatMap_cons, ih,
        orderedLines_of_line? found]

/-- Over a tree, the lists of its replies follow a line. -/
theorem orderedLines_of_tree {id : LineId} {l : DialogueLine} (there : m.line? id = some l)
    (tree : m.replyLinks.TreeFrom id) : m.orderedLines id = id :: l.children.flatMap m.orderedLines := by
  have taken : m.replyLinks.next id = l.children.filter fun r => (m.line? r).isSome := by
    change ((m.line? id).elim [] DialogueLine.children).filter (fun r => (m.line? r).isSome) = _
    rw [there]
    rfl
  calc m.orderedLines id
      = m.replyLinks.depthFirst id := orderedLines_of_line? (there ▸ rfl)
    _ = id :: (m.replyLinks.next id).flatMap m.replyLinks.depthFirst := tree.depthFirst_eq
    _ = id :: l.children.flatMap m.orderedLines := by rw [taken, flatMap_orderedLines]

/-- Each walk lists once what can be reached: below a component all other components over children, below a
line the lines that exist over replies. Both are the recursive walk. Where the links form a tree, the lists of
the children follow one another. -/
theorem walks_below (m : StoryModel) :
    (∀ id, (m.descendants id).Nodup ∧ id ∉ m.descendants id ∧
      (∀ x, x ∈ m.descendants id ↔ x ≠ id ∧ TransGen m.HasChild id x) ∧
      m.descendants id = m.childLinks.preorderFrom ((m.component? id).elim [] Component.childIds) [id]) ∧
    (∀ id, (m.orderedLines id).Nodup ∧
      (∀ x, x ∈ m.orderedLines id ↔ (m.line? x).isSome = true ∧ ReflTransGen m.HasReply id x) ∧
      m.orderedLines id = (if (m.line? id).isSome then m.replyLinks.preorder id else []) ∧
      ((m.line? id).isSome = true → (m.orderedLines id).head? = some id)) ∧
    (∀ id, m.childLinks.TreeFrom id → m.descendants id =
      ((m.component? id).elim [] Component.childIds).flatMap fun c => c :: m.descendants c) ∧
    (∀ id l, m.line? id = some l → m.replyLinks.TreeFrom id →
      m.orderedLines id = id :: l.children.flatMap m.orderedLines) := by
  refine ⟨?_, ?_, fun id tree => descendants_of_tree tree, fun id l => orderedLines_of_tree⟩
  · intro id
    refine ⟨m.nodup_descendants id, ?_, fun x => mem_descendants_iff_hasChild,
      m.descendants_eq_preorderFrom id⟩
    exact fun own => (mem_descendants_iff_hasChild.1 own).1 rfl
  · intro id
    refine ⟨m.nodup_orderedLines id, fun x => mem_orderedLines_iff, ?_, ?_⟩
    · rw [← Graph.Links.depthFirst_eq_preorder]
      rfl
    · intro there
      rw [orderedLines_of_line? there, Graph.Links.depthFirst_eq_cons]
      rfl

/-- A chest with a bag and a box, with a coin in the bag, and a talk in which one of the replies is lost. -/
def chest : StoryModel where
  root := ⟨0⟩
  components := Table.ofList
    [(⟨0⟩, ⟨⟨0⟩, "Chest", none, .container [⟨1⟩, ⟨2⟩]⟩), (⟨1⟩, ⟨⟨1⟩, "Bag", none, .container [⟨3⟩]⟩),
      (⟨2⟩, ⟨⟨2⟩, "Box", none, .container []⟩), (⟨3⟩, ⟨⟨3⟩, "Coin", none, .note⟩)]
  lines := Table.ofList
    [(⟨0⟩, { text := "Yours?", speaker := .npc, children := [⟨1⟩, ⟨7⟩, ⟨2⟩] }),
      (⟨1⟩, { text := "Yes.", speaker := .player, children := [⟨3⟩] }),
      (⟨2⟩, { text := "No.", speaker := .player }), (⟨3⟩, { text := "Prove it.", speaker := .npc })]

/-- The bag comes with its coin before the box, and the lost reply is left out. -/
theorem chest_walked :
    chest.childLinks.TreeFrom ⟨0⟩ ∧ chest.replyLinks.TreeFrom ⟨0⟩ ∧
      chest.descendants ⟨0⟩ = [⟨1⟩, ⟨2⟩].flatMap (fun c => c :: chest.descendants c) ∧
      chest.orderedLines ⟨0⟩ = ⟨0⟩ :: [⟨1⟩, ⟨7⟩, ⟨2⟩].flatMap chest.orderedLines ∧
      chest.descendants ⟨0⟩ = [⟨1⟩, ⟨3⟩, ⟨2⟩] ∧ chest.orderedLines ⟨0⟩ = [⟨0⟩, ⟨1⟩, ⟨3⟩, ⟨2⟩] ∧
      (chest.orderedLines ⟨0⟩).head? = some ⟨0⟩ := by
  have below : chest.childLinks.depthFirst ⟨0⟩ = [⟨0⟩, ⟨1⟩, ⟨3⟩, ⟨2⟩] := by cbv
  have replies : chest.replyLinks.depthFirst ⟨0⟩ = [⟨0⟩, ⟨1⟩, ⟨3⟩, ⟨2⟩] := by cbv
  have tree : chest.childLinks.TreeFrom ⟨0⟩ := by
    rw [Graph.Links.TreeFrom.iff_depthFirst, below]
    decide
  have talk : chest.replyLinks.TreeFrom ⟨0⟩ := by
    rw [Graph.Links.TreeFrom.iff_depthFirst, replies]
    decide
  rcases chest.walks_below with ⟨-, lines, components_of_tree, lines_of_tree⟩
  rcases lines ⟨0⟩ with ⟨-, -, -, first⟩
  refine ⟨tree, talk, components_of_tree ⟨0⟩ tree, lines_of_tree ⟨0⟩ _ rfl talk, ?_, ?_, first rfl⟩
  · rw [descendants, below]
    rfl
  · rw [orderedLines_of_line? rfl, replies]

end StoryModel
end StoryLoom
