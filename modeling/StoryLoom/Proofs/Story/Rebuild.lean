import StoryLoom.Proofs.Story.Relinking

/-!
# Rebuild — links that are set anew from the lists

- `Order.ownerAnew` : the owner that a component has after the links are set anew
- `SameButConditions` : stories that differ in owners of conditions of branches only
- `Linked.sameButConditions` : setting the links of a linked story anew changes nothing else
- `construction_keeps_links` : what holds of every story under construction
-/

namespace StoryLoom
namespace StoryModel

variable {m : StoryModel}

/-! ## Linked stories -/

namespace Order

/-- The owner that a component has after the links are set anew. -/
def ownerAnew (o : m.Order) (x : ComponentId) (k : Component) : Option ComponentId :=
  (lastClaim? (o.childClaims ++ o.variableClaims) x).or k.owner

/-- Setting the links anew gives every condition of a branch an owner. -/
theorem owned_rebuilt (o : m.Order) {a x : ComponentId} {c : Component} (asks : m.Asks a x)
    (hc : m.component? x = some c) :
    ∃ k, o.rebuilt.component? x = some k ∧ k.owner.isSome = true := by
  refine ⟨{ c with id := x, owner := o.ownerAnew x c }, ?_, ?_⟩
  · rw [o.component?_rebuilt, hc]
    rfl
  · change (o.ownerAnew x c).isSome = true
    have claim : (x, a) ∈ o.childClaims ++ o.variableClaims := mem_claims_iff.2 (.inr (.inl asks))
    cases last : lastClaim? (o.childClaims ++ o.variableClaims) x with
    | none => exact absurd claim (not_mem_of_lastClaim? last)
    | some p =>
      rw [ownerAnew, last]
      rfl

end Order

/-- A story is another one but for owners of components, each of which stays or becomes a branch that has the
component as its condition. -/
def SameButConditions (m m' : StoryModel) : Prop :=
  ∃ owner : ComponentId → Component → Option ComponentId,
    m' = { m with
      components := m.components.mapValues fun x k => { k with owner := owner x k } } ∧
    ∀ x k, m.component? x = some k → owner x k = k.owner ∨ ∃ a, owner x k = some a ∧ m.Asks a x

namespace Linked

variable {x p : ComponentId} {k : Component}

/-- The claims on components go back to their owners, those of branches on their conditions apart. -/
theorem owner_of_claims (h : m.Linked) (hk : m.component? x = some k) (claim : m.Claims p x) :
    k.owner = some p ∨ m.Asks p x := by
  rcases claim with ⟨c, hc, child⟩ | asks | ⟨n, b, ⟨c, hc, hn⟩, hb, hx⟩
  · obtain ⟨k', hk', owned⟩ := h.children.listed hc child
    obtain rfl : k = k' := Option.some.inj (hk.symm.trans hk')
    exact .inl owned
  · exact .inr asks
  · obtain ⟨b', hb', blockOwned⟩ := h.blocks.listed hc hn
    obtain rfl : b = b' := Option.some.inj (hb.symm.trans hb')
    obtain ⟨k', hk', -, owned⟩ := h.knowIts.listed hb hx
    obtain rfl : k = k' := Option.some.inj (hk.symm.trans hk')
    exact .inl (owned.trans blockOwned)

/-- The owner found anew is the old one, except for what an AskIt asks. -/
theorem ownerAnew_of_component? (h : m.Linked) (o : m.Order) (hk : m.component? x = some k) :
    o.ownerAnew x k = k.owner ∨ ∃ a, o.ownerAnew x k = some a ∧ m.Asks a x := by
  rw [Order.ownerAnew]
  cases last : lastClaim? (o.childClaims ++ o.variableClaims) x with
  | none => exact .inl rfl
  | some p =>
    rcases h.owner_of_claims hk (Order.mem_claims_iff.1 (mem_of_lastClaim? last)) with owned | asks
    · exact .inl owned.symm
    · exact .inr ⟨p, rfl, asks⟩

/-- The claims of scripts give a block the owner that it has. -/
theorem blockOwner_anew (h : m.Linked) (o : m.Order) {n : CodeBlockId} {b : CodeBlock}
    (hb : m.codeBlock? n = some b) : (lastClaim? o.blockClaims n).or b.owner = b.owner := by
  cases last : lastClaim? o.blockClaims n with
  | none => rfl
  | some p =>
    obtain ⟨c, hc, hn⟩ := Order.mem_blockClaims_iff.1 (mem_of_lastClaim? last)
    obtain ⟨b', hb', owned⟩ := h.blocks.listed hc hn
    obtain rfl : b = b' := Option.some.inj (hb.symm.trans hb')
    exact owned.symm

/-- The claims of lines give a line the parent that it has, or none if it has none. -/
theorem lineParent_anew (h : m.Linked) (o : m.Order) {x : LineId} {l : DialogueLine}
    (hl : m.line? x = some l) : lastClaim? o.replyClaims x = l.parent := by
  cases last : lastClaim? o.replyClaims x with
  | some p =>
    obtain ⟨q, hq, reply⟩ := Order.mem_replyClaims_iff.1 (mem_of_lastClaim? last)
    obtain ⟨l', hl', parent, -⟩ := h.replies.listed hq reply
    obtain rfl : l = l' := Option.some.inj (hl.symm.trans hl')
    exact parent.symm
  | none =>
    cases named : l.parent with
    | none => rfl
    | some p =>
      obtain ⟨q, hq, reply⟩ := h.repliesAnswered x l p hl named
      exact absurd (Order.mem_replyClaims_iff.2 ⟨q, hq, reply⟩) (not_mem_of_lastClaim? last)

/-- Setting the links of a linked story anew changes no more than owners of components. -/
theorem rebuilt_eq (h : m.Linked) (o : m.Order) :
    o.rebuilt = { m with
      components := m.components.mapValues fun x k => { k with owner := o.ownerAnew x k } } := by
  have components : (m.components.mapValues fun x k => { k with id := x, owner := o.ownerAnew x k }) =
      m.components.mapValues fun x k => { k with owner := o.ownerAnew x k } := by
    refine Table.mapValues_congr ?_
    intro x k hk
    rw [← h.keyed.component_id hk]
  -- Blocks and lines of a linked story are listed by the owners that they have.
  have codeBlocks : (m.codeBlocks.mapValues fun n b =>
      { b with id := n, owner := (lastClaim? o.blockClaims n).or b.owner }) = m.codeBlocks := by
    refine Table.mapValues_eq_self ?_
    intro n b hb
    rw [h.blockOwner_anew o hb, ← h.keyed.codeBlock_id hb]
  have lines : (m.lines.mapValues fun x l =>
      { l with id := x, parent := lastClaim? o.replyClaims x }) = m.lines := by
    refine Table.mapValues_eq_self ?_
    intro x l hl
    rw [h.lineParent_anew o hl, ← h.keyed.line_id hl]
  calc o.rebuilt
      = { m with
          components := m.components.mapValues fun x k => { k with id := x, owner := o.ownerAnew x k }
          codeBlocks := m.codeBlocks.mapValues fun n b =>
            { b with id := n, owner := (lastClaim? o.blockClaims n).or b.owner }
          lines := m.lines.mapValues fun x l =>
            { l with id := x, parent := lastClaim? o.replyClaims x } } := rfl
    _ = _ := by rw [components, codeBlocks, lines]

variable {m' : StoryModel}

/-- Rebuilding a linked story changes at most the owners of conditions. -/
theorem sameButConditions (h : m.Linked) (rebuilt : m.IsRebuilt m') : m.SameButConditions m' := by
  obtain ⟨o, rfl⟩ := rebuilt.exists_order
  exact ⟨o.ownerAnew, h.rebuilt_eq o, fun _ _ hk => h.ownerAnew_of_component? o hk⟩

/-- Where conditions belong to their branches, setting the links anew changes nothing. -/
theorem eq_of_isRebuilt (h : m.Linked) (rebuilt : m.IsRebuilt m')
    (owned : ∀ a x k, m.Asks a x → m.component? x = some k → k.owner = some a) : m' = m := by
  obtain ⟨owner, rfl, kept⟩ := h.sameButConditions rebuilt
  have components : (m.components.mapValues fun x k => { k with owner := owner x k }) = m.components := by
    refine Table.mapValues_eq_self ?_
    intro x k hk
    have same : owner x k = k.owner := by
      rcases kept x k hk with same | ⟨a, anew, asks⟩
      · exact same
      · exact anew.trans (owned a x k asks hk).symm
    rw [same]
  rw [components]

end Linked

/-! ## Stories under construction -/

/-- Every construction keeps the links of a story. Refused steps change nothing. Setting the links anew, in
whatever order the tables are read, gives another owner to conditions of branches only, and changes nothing
where these belong to their branches. -/
theorem construction_keeps_links (text : String) (ops : List Operation)
    (plain : ∀ op ∈ ops, op.Plain) :
    let m := (start text).afterAll ops
    m.Linked ∧
      (∀ x, ¬ Relation.TransGen m.Owns x x) ∧
      (m.components.values.flatMap Component.childIds).Nodup ∧
      (m.components.values.flatMap Component.blockIds).Nodup ∧
      (m.codeBlocks.values.flatMap CodeBlock.variables).Nodup ∧
      (m.lines.values.flatMap DialogueLine.children).Nodup ∧
      (∀ (op : Operation) (e : ModelError) (m' : StoryModel), op.edit m = .error e m' → m' = m) ∧
      (∀ m', m.IsRebuilt m' → m.SameButConditions m') ∧
      ((∀ a x k, m.Asks a x → m.component? x = some k → k.owner = some a) →
        ∀ m', m.IsRebuilt m' → m' = m) := by
  intro m
  have linked : m.Linked := linked_construction text plain
  refine ⟨linked, linked.older.not_above_self, linked.children.nodup_flatMap,
    linked.blocks.nodup_flatMap, linked.knowIts.nodup_flatMap, linked.replies.nodup_flatMap, ?_,
    fun m' rebuilt => linked.sameButConditions rebuilt,
    fun owned m' rebuilt => linked.eq_of_isRebuilt rebuilt owned⟩
  intro op e m' refused
  -- Each step ends in a refusal that changes nothing, or it succeeds.
  rcases ends_step m op with ⟨e', refused'⟩ | ⟨m'', done, -⟩
  · rw [refused'] at refused
    cases refused
    rfl
  · rw [done] at refused
    cases refused

/-- A cause on a door with a variable, a question about a flag of its own, and a conversation. -/
def watchedDoor : List Operation :=
  [.addChild ⟨0⟩ "Opened" (.scriptIt { role := .cause }),
    .addCodeBlock ⟨1⟩ { slot := "opened", subject := some "Door" },
    .addParameter ⟨0⟩ "Door" {},
    .addChild ⟨1⟩ "Seen?" (.askIt { condition := some ⟨4⟩ }),
    .addOwned ⟨3⟩ "Seen" (.knowIt {}),
    .addChild ⟨4⟩ "Nowhere" .note,
    .addDialogueRoot "Who is there?" .npc,
    .addDialogueReply ⟨0⟩ "Me."]

/-- A door that is watched keeps its links. -/
theorem watched_door_links :
    (∀ op ∈ watchedDoor, op.Plain) ∧
      ((start "Start").afterAll watchedDoor).rebuildOwners = (start "Start").afterAll watchedDoor := by
  have plain : ∀ op ∈ watchedDoor, op.Plain := by
    simp [watchedDoor, Operation.Plain, ComponentKind.Bare]
  have owned : ∀ e ∈ ((start "Start").afterAll watchedDoor).components.entries,
      ∀ f ∈ ((start "Start").afterAll watchedDoor).components.entries,
        f.1 ∈ claims e.2 → f.2.owner = some e.1 := by
    decide +kernel
  obtain ⟨-, -, -, -, -, -, -, -, settled⟩ := construction_keeps_links "Start" watchedDoor plain
  refine ⟨plain, settled ?_ _ (.inl rfl)⟩
  rintro a x k ⟨b, ask, hb, branch, condition⟩ hk
  exact owned (a, b) (Table.get?_eq_some_iff.1 hb) (x, k) (Table.get?_eq_some_iff.1 hk)
    (mem_claims.2 (.inr ⟨ask, branch, condition⟩))

/-- A question about a flag that belongs to nobody. -/
def askedFlag : List Operation :=
  [.addDetached "Flag" (.knowIt {}),
    .addChild ⟨0⟩ "Ask" (.askIt { condition := some ⟨1⟩ })]

/-- A flag that an AskIt asks gets a new owner. -/
theorem asked_flag_changes_owner :
    (∀ op ∈ askedFlag, op.Plain) ∧
      ((start "Start").afterAll askedFlag).rebuildOwners ≠ (start "Start").afterAll askedFlag := by
  refine ⟨by simp [askedFlag, Operation.Plain, ComponentKind.Bare], ?_⟩
  intro same
  have asks : ((start "Start").afterAll askedFlag).Asks ⟨2⟩ ⟨1⟩ := ⟨_, _, rfl, rfl, rfl⟩
  have flag : ((start "Start").afterAll askedFlag).component? ⟨1⟩ =
      some ⟨⟨1⟩, "Flag", none, .knowIt {}⟩ := rfl
  obtain ⟨k, hk, owned⟩ := (scattered _).owned_rebuilt asks flag
  rw [← rebuildOwners_eq_rebuilt, same, flag] at hk
  cases hk
  cases owned

end StoryModel
end StoryLoom
