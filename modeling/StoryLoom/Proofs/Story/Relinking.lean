import StoryLoom.Proofs.Story.Claims

/-!
# Relinking — what setting the links anew does to any story

- `Order.rebuilt`  : the story with its links set by the lists, read in an order
- `rebuildOwners_eq_rebuilt` : the story with its links set anew is one of these
- `IsRebuilt`      : a story with its links set anew, in whatever order
- `Relinked`       : what holds of the links that are set anew, whatever they were before
- `rebuild_settles_links` : it does in every order, and doing it again changes nothing

The story may be any: its objects may carry other numbers than those they are stored under, may name owners
that do not exist, and may be listed by several others or by none.
-/

namespace StoryLoom
namespace StoryModel

variable {m : StoryModel}

namespace Order

variable {o : m.Order}

/-- The story with its links set by the lists; of several claims on an object the last one counts. -/
def rebuilt (o : m.Order) : StoryModel :=
  { m with
    components := m.components.mapValues fun id c =>
      { c with id := id, owner := (lastClaim? (o.childClaims ++ o.variableClaims) id).or c.owner }
    codeBlocks := m.codeBlocks.mapValues fun id b =>
      { b with id := id, owner := (lastClaim? o.blockClaims id).or b.owner }
    lines := m.lines.mapValues fun id l => { l with id := id, parent := lastClaim? o.replyClaims id } }

/-- The same order of the story with its links set. -/
def again (o : m.Order) : o.rebuilt.Order where
  components := o.components
  lines := o.lines
  components_perm := by
    rw [rebuilt, Table.keys_mapValues]
    exact o.components_perm
  lines_perm := by
    rw [rebuilt, Table.keys_mapValues]
    exact o.lines_perm

/-- Each component keeps its kind, takes the id of its key, and belongs to the last that claims it. -/
theorem component?_rebuilt (o : m.Order) (x : ComponentId) : o.rebuilt.component? x =
    (m.component? x).map fun k =>
      { k with id := x, owner := (lastClaim? (o.childClaims ++ o.variableClaims) x).or k.owner } :=
  Table.get?_mapValues

/-- A block belongs to the last script that lists it. -/
theorem codeBlock?_rebuilt (o : m.Order) (n : CodeBlockId) : o.rebuilt.codeBlock? n =
    (m.codeBlock? n).map fun b =>
      { b with id := n, owner := (lastClaim? o.blockClaims n).or b.owner } :=
  Table.get?_mapValues

/-- A line answers the last line that lists it, or none. -/
theorem line?_rebuilt (o : m.Order) (x : LineId) : o.rebuilt.line? x =
    (m.line? x).map fun l => { l with id := x, parent := lastClaim? o.replyClaims x } :=
  Table.get?_mapValues

/-- Every object carries the number it is stored under. -/
theorem keyed_rebuilt (o : m.Order) : o.rebuilt.Keyed := by
  refine ⟨?_, ?_, ?_⟩ <;>
  · intro e he
    rcases List.mem_map.1 he with ⟨e, -, rfl⟩
    rfl

end Order

/-! ## Links that are set anew -/

/-- Of two stories, the second is the first with its links set anew: what one object alone lists belongs to it,
a line that none lists opens a conversation, and all but numbers, owners and parents stays. -/
structure Relinked (m m' : StoryModel) : Prop where
  keyed : m'.Keyed
  owner : ∀ x k p, m'.component? x = some k → m.Claims p x → (∀ q, m.Claims q x → q = p) →
    k.owner = some p
  blockOwner : ∀ n b p, m'.codeBlock? n = some b → m.ListsBlock p n →
    (∀ q, m.ListsBlock q n → q = p) → b.owner = some p
  parent : ∀ x l p, m'.line? x = some l → m.HasReply p x → (∀ q, m.HasReply q x → q = p) →
    l.parent = some p
  opening : ∀ x l, m'.line? x = some l → (∀ p, ¬ m.HasReply p x) → l.parent = none
  root : m'.root = m.root
  slots : m'.slots = m.slots
  componentKeys : m'.components.keys = m.components.keys
  blockKeys : m'.codeBlocks.keys = m.codeBlocks.keys
  lineKeys : m'.lines.keys = m.lines.keys
  component : ∀ x k, m.component? x = some k →
    ∃ owner, m'.component? x = some { k with id := x, owner := owner }
  codeBlock : ∀ n b, m.codeBlock? n = some b →
    ∃ owner, m'.codeBlock? n = some { b with id := n, owner := owner }
  line : ∀ x l, m.line? x = some l →
    ∃ parent, m'.line? x = some { l with id := x, parent := parent }

namespace Order

/-- In whatever order the lists are read, the links are set anew. -/
theorem relinked (o : m.Order) : m.Relinked o.rebuilt where
  keyed := o.keyed_rebuilt
  owner := by
    intro x k p found claim only
    rw [component?_rebuilt] at found
    rcases Option.map_eq_some_iff.1 found with ⟨k, -, rfl⟩
    -- The only claim is the last one, whatever the order.
    have last : lastClaim? (o.childClaims ++ o.variableClaims) x = some p :=
      lastClaim?_of_only (mem_claims_iff.2 claim) fun q among => only q (mem_claims_iff.1 among)
    simp only [last, Option.some_or]
  blockOwner := by
    intro n b p found lists only
    rw [codeBlock?_rebuilt] at found
    rcases Option.map_eq_some_iff.1 found with ⟨b, -, rfl⟩
    have last : lastClaim? o.blockClaims n = some p :=
      lastClaim?_of_only (mem_blockClaims_iff.2 lists) fun q among => only q (mem_blockClaims_iff.1 among)
    simp only [last, Option.some_or]
  parent := by
    intro x l p found reply only
    rw [line?_rebuilt] at found
    rcases Option.map_eq_some_iff.1 found with ⟨l, -, rfl⟩
    exact lastClaim?_of_only (mem_replyClaims_iff.2 reply) fun q among =>
      only q (mem_replyClaims_iff.1 among)
  opening := by
    intro x l found unlisted
    rw [line?_rebuilt] at found
    rcases Option.map_eq_some_iff.1 found with ⟨l, -, rfl⟩
    exact lastClaim?_of_none fun p among => unlisted p (mem_replyClaims_iff.1 among)
  root := rfl
  slots := rfl
  componentKeys := Table.keys_mapValues
  blockKeys := Table.keys_mapValues
  lineKeys := Table.keys_mapValues
  component := by
    intro x k found
    rw [component?_rebuilt, found]
    exact ⟨_, rfl⟩
  codeBlock := by
    intro n b found
    rw [codeBlock?_rebuilt, found]
    exact ⟨_, rfl⟩
  line := by
    intro x l found
    rw [line?_rebuilt, found]
    exact ⟨_, rfl⟩

/-! ## Setting the links twice -/

theorem childClaims_again (o : m.Order) : o.again.childClaims = o.childClaims :=
  listings_mapValues fun _ _ => rfl

theorem blockClaims_again (o : m.Order) : o.again.blockClaims = o.blockClaims :=
  listings_mapValues fun _ _ => rfl

theorem replyClaims_again (o : m.Order) : o.again.replyClaims = o.replyClaims :=
  listings_mapValues fun _ _ => rfl

/-- A story rebuilt once makes the same claims in the same order. -/
theorem variableClaims_again (o : m.Order) : o.again.variableClaims = o.variableClaims := by
  rw [variableClaims, variableClaims, blockClaims_again]
  apply List.flatMap_congr
  intro claim _
  rw [codeBlock?_rebuilt]
  cases m.codeBlock? claim.1 <;> rfl

/-- Read in the same order, the lists say the same again, and what they say is so already. -/
theorem again_rebuilt (o : m.Order) : o.again.rebuilt = o.rebuilt := by
  -- What was claimed has the last claim as its owner already; what was not keeps the owner it has.
  have components : (o.rebuilt.components.mapValues fun x k =>
      { k with id := x, owner := (lastClaim? (o.childClaims ++ o.variableClaims) x).or k.owner }) =
      o.rebuilt.components := by
    apply Table.mapValues_eq_self
    intro x k found
    rcases Option.map_eq_some_iff.1 ((o.component?_rebuilt x).symm.trans found) with ⟨k, -, rfl⟩
    simp only [← Option.or_assoc, Option.or_self]
  have codeBlocks : (o.rebuilt.codeBlocks.mapValues fun n b =>
      { b with id := n, owner := (lastClaim? o.blockClaims n).or b.owner }) = o.rebuilt.codeBlocks := by
    apply Table.mapValues_eq_self
    intro n b found
    rcases Option.map_eq_some_iff.1 ((o.codeBlock?_rebuilt n).symm.trans found) with ⟨b, -, rfl⟩
    simp only [← Option.or_assoc, Option.or_self]
  have lines : (o.rebuilt.lines.mapValues fun x l =>
      { l with id := x, parent := lastClaim? o.replyClaims x }) = o.rebuilt.lines := by
    apply Table.mapValues_eq_self
    intro x l found
    rcases Option.map_eq_some_iff.1 ((o.line?_rebuilt x).symm.trans found) with ⟨l, -, rfl⟩
    rfl
  calc o.again.rebuilt
      = { o.rebuilt with
          components := o.rebuilt.components.mapValues fun x k => { k with
            id := x, owner := (lastClaim? (o.childClaims ++ o.variableClaims) x).or k.owner }
          codeBlocks := o.rebuilt.codeBlocks.mapValues fun n b =>
            { b with id := n, owner := (lastClaim? o.blockClaims n).or b.owner }
          lines := o.rebuilt.lines.mapValues fun x l =>
            { l with id := x, parent := lastClaim? o.replyClaims x } } := by
        rw [rebuilt, childClaims_again, variableClaims_again, blockClaims_again, replyClaims_again]
    _ = o.rebuilt := by rw [components, codeBlocks, lines]

end Order

/-! ## The order by seats -/

theorem rebuildOwners_eq_rebuilt (m : StoryModel) : m.rebuildOwners = m.scattered.rebuilt := by
  simp only [rebuildOwners, Order.rebuilt, childClaims_eq, variableClaims_eq, blockClaims_eq,
    replyClaims_eq]

/-- A story is another one with its links set anew, as `rebuildOwners` sets them or with the tables read in any
other order. -/
def IsRebuilt (m m' : StoryModel) : Prop :=
  m' = m.rebuildOwners ∨ ∃ o : m.Order, m' = o.rebuilt

/-- Every outcome of rebuilding comes from an order of the tables. -/
theorem IsRebuilt.exists_order {m m' : StoryModel} (h : m.IsRebuilt m') : ∃ o : m.Order, m' = o.rebuilt := by
  rcases h with rfl | ordered
  · exact ⟨m.scattered, m.rebuildOwners_eq_rebuilt⟩
  · exact ordered

/-- The order depends on the numbers only, and these stay. -/
theorem scattered_rebuilt (o : m.Order) :
    o.rebuilt.scattered.components = m.scattered.components ∧
      o.rebuilt.scattered.lines = m.scattered.lines := by
  constructor
  · have same := Scatter.map_scatter ComponentId.number (Prod.fst (β := Component))
    calc o.rebuilt.scattered.components
        = Scatter.scatter ComponentId.number o.rebuilt.components.keys := same _
      _ = Scatter.scatter ComponentId.number m.components.keys := by
          rw [Order.rebuilt, Table.keys_mapValues]
      _ = m.scattered.components := (same _).symm
  · have same := Scatter.map_scatter LineId.number (Prod.fst (β := DialogueLine))
    calc o.rebuilt.scattered.lines
        = Scatter.scatter LineId.number o.rebuilt.lines.keys := same _
      _ = Scatter.scatter LineId.number m.lines.keys := by
          rw [Order.rebuilt, Table.keys_mapValues]
      _ = m.scattered.lines := (same _).symm

/-- Setting the links of a story anew gives every object to the one that alone lists it, whatever numbers,
owners and parents were stored, and changes nothing else. Doing it again changes nothing. Both hold whatever
order the tables are read in. -/
theorem rebuild_settles_links (m : StoryModel) :
    m.Relinked m.rebuildOwners ∧ m.rebuildOwners.rebuildOwners = m.rebuildOwners ∧
      ∀ o : m.Order, m.Relinked o.rebuilt ∧ o.again.rebuilt = o.rebuilt := by
  have once := m.rebuildOwners_eq_rebuilt
  refine ⟨once ▸ m.scattered.relinked, ?_, fun o => ⟨o.relinked, o.again_rebuilt⟩⟩
  -- The second time the tables are read in the order of the first.
  have same : m.scattered.rebuilt.scattered = m.scattered.again := by
    rcases scattered_rebuilt m.scattered with ⟨components, lines⟩
    exact Order.ext components lines
  rw [once, rebuildOwners_eq_rebuilt, same, Order.again_rebuilt]

/-- A cause on a door, with numbers, owners and a parent that are all wrong. -/
def stale : StoryModel where
  root := ⟨0⟩
  components := Table.ofList
    [(⟨0⟩, ⟨⟨7⟩, "Start", some ⟨2⟩, .storyPoint { children := [⟨1⟩] }⟩),
      (⟨1⟩, ⟨⟨0⟩, "Opened", some ⟨8⟩, .scriptIt { role := .cause, codeBlocks := [⟨0⟩, ⟨5⟩] }⟩),
      (⟨2⟩, ⟨⟨2⟩, "Door", none, .knowIt {}⟩)]
  codeBlocks := Table.ofList
    [(⟨0⟩, { id := ⟨9⟩, owner := some ⟨4⟩, slot := "opened", parameters := [⟨2⟩, ⟨6⟩] })]
  lines := Table.ofList [(⟨0⟩, { text := "Who is there?", speaker := .npc, parent := some ⟨3⟩ })]

/-- The door belongs to the cause whose block lists it, the block to the cause, and the line opens a
conversation. -/
theorem stale_relinked :
    (∃ k, stale.rebuildOwners.component? ⟨2⟩ = some k ∧ k.owner = some ⟨1⟩) ∧
      (∃ b, stale.rebuildOwners.codeBlock? ⟨0⟩ = some b ∧ b.id = ⟨0⟩ ∧ b.owner = some ⟨1⟩) ∧
      (∃ l, stale.rebuildOwners.line? ⟨0⟩ = some l ∧ l.parent = none) ∧
      stale.rebuildOwners.rebuildOwners = stale.rebuildOwners := by
  rcases stale.rebuild_settles_links with ⟨relinked, twice, -⟩
  rcases relinked.component ⟨2⟩ _ rfl with ⟨owner, door⟩
  rcases relinked.codeBlock ⟨0⟩ _ rfl with ⟨blockOwner, block⟩
  rcases relinked.line ⟨0⟩ _ rfl with ⟨parent, line⟩
  have scripts : ∀ e ∈ stale.components.entries, e.2.blockIds ≠ [] → e.1 = ⟨1⟩ := by decide
  have others : ∀ e ∈ stale.components.entries, ⟨2⟩ ∉ StoryModel.claims e.2 := by decide
  have silent : ∀ e ∈ stale.lines.entries, e.2.children = [] := by decide
  have lists : ∀ p n, stale.ListsBlock p n → p = ⟨1⟩ := by
    rintro p n ⟨c, hc, hn⟩
    exact scripts (p, c) (Table.get?_eq_some_iff.1 hc) (List.ne_nil_of_mem hn)
  have claims : ∀ p, stale.Claims p ⟨2⟩ → p = ⟨1⟩ := by
    rintro p (⟨c, hc, child⟩ | ⟨c, a, hc, branch, condition⟩ | ⟨n, b, listed, -, -⟩)
    · exact absurd (mem_claims.2 (.inl child)) (others (p, c) (Table.get?_eq_some_iff.1 hc))
    · exact absurd (mem_claims.2 (.inr ⟨a, branch, condition⟩))
        (others (p, c) (Table.get?_eq_some_iff.1 hc))
    · exact lists p n listed
  refine ⟨⟨_, door, ?_⟩, ⟨_, block, rfl, ?_⟩, ⟨_, line, ?_⟩, twice⟩
  · exact relinked.owner ⟨2⟩ _ ⟨1⟩ door (.inr (.inr ⟨⟨0⟩, _, ⟨_, rfl, by decide⟩, rfl, by decide⟩)) claims
  · exact relinked.blockOwner ⟨0⟩ _ ⟨1⟩ block ⟨_, rfl, by decide⟩ fun p => lists p ⟨0⟩
  · apply relinked.opening ⟨0⟩ _ line
    rintro p ⟨l, hl, reply⟩
    exact List.ne_nil_of_mem reply (silent (p, l) (Table.get?_eq_some_iff.1 hl))

end StoryModel
end StoryLoom
