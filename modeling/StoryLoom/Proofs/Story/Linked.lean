import StoryLoom.Proofs.Story.Change
import StoryLoom.Proofs.Story.Keyed
import StoryLoom.Proofs.Table.Listing

/-!
# Linked — the links of a story under construction

- `HasChild`, `ListsBlock`, `HasReply` : who lists whom
- `StoryModel.Linked` : lists and the links back agree, and owners are older than what they own
- `Change.linked`     : what a step of a construction does keeps the links
- `linked_afterAll`   : so does a whole construction
- `OwnersOlder.not_above_self` : owner chains are acyclic
-/

namespace StoryLoom
namespace StoryModel

/-- A component that names another one as its owner is owned by it. -/
def Owns (m : StoryModel) (owner owned : ComponentId) : Prop :=
  ∃ k, m.component? owned = some k ∧ k.owner = some owner

def HasChild (m : StoryModel) (p x : ComponentId) : Prop :=
  ∃ c, m.component? p = some c ∧ x ∈ c.childIds

def ListsBlock (m : StoryModel) (p : ComponentId) (n : CodeBlockId) : Prop :=
  ∃ c, m.component? p = some c ∧ n ∈ c.blockIds

def HasReply (m : StoryModel) (p x : LineId) : Prop :=
  ∃ l, m.line? p = some l ∧ x ∈ l.children

/-- The root of the story is a story point. -/
def Rooted (m : StoryModel) : Prop :=
  ∃ c, m.component? m.root = some c ∧ c.storyPoint?.isSome = true

/-- Owners exist and have smaller numbers than what they own. -/
def OwnersOlder (m : StoryModel) : Prop :=
  ∀ o x, m.Owns o x → o.number < x.number ∧ ∃ c, m.component? o = some c

/-- Lists and the links back agree. -/
structure Linked (m : StoryModel) : Prop where
  keyed : m.Keyed
  rooted : m.Rooted
  /-- A child has the component that lists it as its owner. -/
  children : Table.Listing m.components m.components Component.childIds
    fun p _ _ k => k.owner = some p
  /-- A code block has the script that lists it as its owner. -/
  blocks : Table.Listing m.components m.codeBlocks Component.blockIds
    fun s _ _ b => b.owner = some s
  /-- A code block is listed by its owner. -/
  blocksAnswered : Table.Answered m.components m.codeBlocks Component.blockIds CodeBlock.owner
  /-- What a code block lists are variables of its owner. -/
  knowIts : Table.Listing m.codeBlocks m.components CodeBlock.variables
    fun _ b _ k => k.knowIt?.isSome = true ∧ k.owner = b.owner
  /-- A reply is younger than the line it answers, and spoken by the other party. -/
  replies : Table.Listing m.lines m.lines DialogueLine.children
    fun p l x r => r.parent = some p ∧ r.speaker = l.speaker.other ∧ p.number < x.number
  /-- A reply is listed by the line it answers. -/
  repliesAnswered : Table.Answered m.lines m.lines DialogueLine.children DialogueLine.parent
  older : m.OwnersOlder

variable {m : StoryModel} {id : ComponentId} {c d : Component}

/-! ## What storing one component keeps -/

theorem Keyed.putComponent (h : m.Keyed) (own : d.id = id) : (m.putComponent id d).Keyed where
  components := Table.forall_entries_insert h.components own
  codeBlocks := h.codeBlocks
  lines := h.lines

theorem Keyed.putBlock {n : CodeBlockId} {b : CodeBlock} (h : m.Keyed) (own : b.id = n) :
    (m.putBlock n b).Keyed where
  components := h.components
  codeBlocks := Table.forall_entries_insert h.codeBlocks own
  lines := h.lines

theorem Keyed.putLine {n : LineId} {l : DialogueLine} (h : m.Keyed) (own : l.id = n) :
    (m.putLine n l).Keyed where
  components := h.components
  codeBlocks := h.codeBlocks
  lines := Table.forall_entries_insert h.lines own

/-- A new component is never the root. -/
theorem Rooted.put_new (h : m.Rooted) (new : m.component? id = none) :
    (m.putComponent id d).Rooted := by
  obtain ⟨c, hc, point⟩ := h
  exact ⟨c, Table.get?_insert_new new hc, point⟩

/-- The root stays a story point when its entry is replaced. -/
theorem Rooted.replace (h : m.Rooted) (found : m.component? id = some c)
    (replaces : d.Replaces c) : (m.putComponent id d).Rooted := by
  obtain ⟨r, hr, point⟩ := h
  by_cases same : m.root = id
  · have : r = c := by
      rw [same, found] at hr
      exact (Option.some.inj hr).symm
    subst this
    refine ⟨d, ?_, replaces.isPoint.trans point⟩
    change (m.components.insert id d).get? m.root = some d
    rw [same, Table.get?_insert_self]
  · refine ⟨r, ?_, point⟩
    change (m.components.insert id d).get? m.root = some r
    rw [Table.get?_insert, if_neg same]
    exact hr

theorem exists_of_put (h : ∃ c, m.component? id = some c) {x : ComponentId} :
    ∃ c, (m.putComponent x d).component? id = some c := by
  obtain ⟨c, hc⟩ := h
  by_cases same : id = x
  · subst same
    exact ⟨d, Table.get?_insert_self⟩
  · refine ⟨c, ?_⟩
    change (m.components.insert x d).get? id = some c
    rw [Table.get?_insert, if_neg same]
    exact hc

/-- A new component is younger than its owner. -/
theorem OwnersOlder.put_new (h : m.OwnersOlder)
    (known : ∀ o, d.owner = some o → ∃ c, m.component? o = some c) :
    (m.putComponent m.nextComponentId d).OwnersOlder := by
  rintro o x ⟨k, hk, named⟩
  rcases Table.of_get?_insert hk with ⟨rfl, rfl⟩ | ⟨-, hk⟩
  · obtain ⟨c, hc⟩ := known o named
    exact ⟨lt_nextComponentId hc, exists_of_put ⟨c, hc⟩⟩
  · obtain ⟨lt, found⟩ := h o x ⟨k, hk, named⟩
    exact ⟨lt, exists_of_put found⟩

/-- Replacing an entry keeps its owner. -/
theorem OwnersOlder.replace (h : m.OwnersOlder) (found : m.component? id = some c)
    (replaces : d.Replaces c) : (m.putComponent id d).OwnersOlder := by
  rintro o x ⟨k, hk, named⟩
  have old : m.Owns o x := by
    rcases Table.of_get?_insert hk with ⟨rfl, rfl⟩ | ⟨-, hk⟩
    · exact ⟨c, found, replaces.owner.symm.trans named⟩
    · exact ⟨k, hk, named⟩
  obtain ⟨lt, there⟩ := h o x old
  exact ⟨lt, exists_of_put there⟩

/-! ## What the steps of a construction keep -/

namespace Linked

/-- A new component that nothing lists. -/
theorem inserted (h : m.Linked) {owner : Option ComponentId} {text : String} {kind : ComponentKind}
    (known : ∀ o, owner = some o → ∃ c, m.component? o = some c) (bare : kind.Bare) :
    (m.insertComponent owner text kind).1.Linked where
  keyed := h.keyed.putComponent rfl
  rooted := h.rooted.put_new component?_nextComponentId
  children := h.children.add component?_nextComponentId bare.childIds_eq
  blocks := h.blocks.add_lister bare.blockIds_eq
  blocksAnswered := by
    apply h.blocksAnswered.set_lister
    intro a ha
    cases component?_nextComponentId.symm.trans ha
  knowIts := h.knowIts.add_listed component?_nextComponentId
  replies := h.replies
  repliesAnswered := h.repliesAnswered
  older := h.older.put_new known

/-- Another component in place of one, with the same code blocks. -/
theorem replaced (h : m.Linked) (found : m.component? id = some c) (replaces : d.Replaces c)
    (blocks : d.blockIds = c.blockIds)
    (children : Table.Listing (m.components.insert id d) (m.components.insert id d)
      Component.childIds fun p _ _ k => k.owner = some p) :
    (m.putComponent id d).Linked where
  keyed := h.keyed.putComponent (replaces.id.trans (h.keyed.component_id found))
  rooted := h.rooted.replace found replaces
  children := children
  blocks := h.blocks.change_lister found blocks fun _ _ owned => owned
  blocksAnswered := by
    apply h.blocksAnswered.set_lister
    intro a ha
    obtain rfl : c = a := Option.some.inj (found.symm.trans ha)
    rw [blocks]
    exact fun _ hx => hx
  -- A variable stays one, with the owner it had, so its blocks may go on listing it.
  knowIts := by
    apply h.knowIts.set_listed
    rintro n b k hb hk ⟨isVariable, owned⟩
    obtain rfl : c = k := Option.some.inj (found.symm.trans hk)
    exact ⟨replaces.isVariable.trans isVariable, replaces.owner.trans owned⟩
  replies := h.replies
  repliesAnswered := h.repliesAnswered
  older := h.older.replace found replaces

/-- A new component that another one lists as its child. -/
theorem childAdded (h : m.Linked) {parent : ComponentId} {p : Component} {text : String}
    {kind : ComponentKind} (found : m.component? parent = some p) (bare : kind.Bare)
    (replaces : d.Replaces p) (children : d.childIds = p.childIds ++ [m.nextComponentId])
    (blocks : d.blockIds = p.blockIds) :
    ((m.insertComponent (some parent) text kind).1.putComponent parent d).Linked := by
  -- A component may name an owner that does not list it, so the new one can come first.
  have grown : (m.insertComponent (some parent) text kind).1.Linked := by
    refine h.inserted ?_ bare
    intro o same
    cases same
    exact ⟨p, found⟩
  have still : (m.insertComponent (some parent) text kind).1.component? parent = some p :=
    Table.get?_insert_new component?_nextComponentId found
  refine grown.replaced still replaces blocks ?_
  refine h.children.grow component?_nextComponentId bare.childIds_eq found ?_ (fun _ _ owned => owned)
    (fun _ _ owned => replaces.owner.trans owned) rfl
  rw [children]
  exact List.perm_append_singleton _ _

/-- A new code block that its script lists. -/
theorem blockAdded (h : m.Linked) {b : CodeBlock} (found : m.component? id = some c)
    (replaces : d.Replaces c) (children : d.childIds = c.childIds)
    (blocks : d.blockIds = c.blockIds ++ [m.nextCodeBlockId]) (own : b.id = m.nextCodeBlockId)
    (owner : b.owner = some id) (blank : b.variables = []) :
    ((m.putComponent id d).putBlock m.nextCodeBlockId b).Linked where
  keyed := (h.keyed.putComponent (replaces.id.trans (h.keyed.component_id found))).putBlock own
  rooted := h.rooted.replace found replaces
  children := h.children.change found children (fun _ _ owned => owned)
    fun _ _ owned => replaces.owner.trans owned
  blocks := by
    -- Nobody lists the new number, as whatever is listed exists.
    refine (h.blocks.add_listed codeBlock?_nextCodeBlockId).list_further found ?_
      (fun _ _ owned => owned) Table.get?_insert_self owner ?_
    · rw [blocks]
      exact List.perm_append_singleton _ _
    · intro q k hk
      exact h.blocks.not_mem_of_absent codeBlock?_nextCodeBlockId hk
  blocksAnswered := by
    refine (h.blocksAnswered.set_lister ?_).set_listed ?_
    · intro a ha
      obtain rfl : c = a := Option.some.inj (found.symm.trans ha)
      rw [blocks]
      exact List.subset_append_left _ _
    · intro q named
      obtain rfl : id = q := Option.some.inj (owner.symm.trans named)
      refine ⟨d, Table.get?_insert_self, ?_⟩
      rw [blocks]
      exact List.mem_append_right _ (List.mem_singleton_self _)
  knowIts := by
    refine Table.Listing.add_lister (h.knowIts.set_listed ?_) blank
    rintro n a k ha hk ⟨isVariable, owned⟩
    obtain rfl : c = k := Option.some.inj (found.symm.trans hk)
    exact ⟨replaces.isVariable.trans isVariable, replaces.owner.trans owned⟩
  replies := h.replies
  repliesAnswered := h.repliesAnswered
  older := h.older.replace found replaces

/-- A new variable that a code block lists. -/
theorem variableAdded (h : m.Linked) {n : CodeBlockId} {b b' : CodeBlock} {text : String}
    {knowIt : KnowIt} (found : m.codeBlock? n = some b) (own : b'.id = b.id)
    (owner : b'.owner = b.owner) (further : b'.variables.Perm (m.nextComponentId :: b.variables)) :
    ((m.insertComponent b.owner text (.knowIt knowIt)).1.putBlock n b').Linked := by
  -- The owner of a block exists, because it lists the block.
  have known : ∀ o, b.owner = some o → ∃ c, m.component? o = some c := by
    intro o named
    obtain ⟨c, hc, -⟩ := h.blocksAnswered n b o found named
    exact ⟨c, hc⟩
  have grown : (m.insertComponent b.owner text (.knowIt knowIt)).1.Linked := h.inserted known trivial
  exact {
    keyed := grown.keyed.putBlock (own.trans (h.keyed.codeBlock_id found))
    rooted := grown.rooted
    children := grown.children
    blocks := by
      apply grown.blocks.set_listed
      intro p a e ha he owned
      obtain rfl : b = e := Option.some.inj (found.symm.trans he)
      exact owner.trans owned
    blocksAnswered := by
      apply grown.blocksAnswered.set_listed
      intro o named
      exact grown.blocksAnswered n b o found (owner.symm.trans named)
    knowIts := by
      refine grown.knowIts.list_further found further ?_ Table.get?_insert_self ⟨rfl, owner.symm⟩ ?_
      · rintro x k ⟨isVariable, owned⟩
        exact ⟨isVariable, owned.trans owner.symm⟩
      · intro q e he
        exact h.knowIts.not_mem_of_absent component?_nextComponentId he
    replies := h.replies
    repliesAnswered := h.repliesAnswered
    older := grown.older }

/-- A new line that opens a conversation. -/
theorem lineAdded (h : m.Linked) (text : String) (speaker : Speaker) :
    (m.addDialogueRoot text speaker).1.Linked where
  keyed := h.keyed.putLine rfl
  rooted := h.rooted
  children := h.children
  blocks := h.blocks
  blocksAnswered := h.blocksAnswered
  knowIts := h.knowIts
  replies := h.replies.add line?_nextLineId rfl
  repliesAnswered := by
    refine (h.repliesAnswered.set_lister ?_).set_listed ?_
    · intro a ha
      cases line?_nextLineId.symm.trans ha
    · intro q named
      cases named
  older := h.older

/-- A new line that another one lists as a reply. -/
theorem replyAdded (h : m.Linked) {p : LineId} {l r : DialogueLine} (found : m.line? p = some l)
    (own : r.id = m.nextLineId) (parent : r.parent = some p) (blank : r.children = [])
    (speaker : r.speaker = l.speaker.other) :
    ((m.putLine m.nextLineId r).putLine p
      { l with children := l.children ++ [m.nextLineId] }).Linked where
  keyed := (h.keyed.putLine own).putLine (show l.id = p from h.keyed.line_id found)
  rooted := h.rooted
  children := h.children
  blocks := h.blocks
  blocksAnswered := h.blocksAnswered
  knowIts := h.knowIts
  replies := by
    refine h.replies.grow line?_nextLineId blank found (List.perm_append_singleton _ _)
      (fun _ _ agreed => agreed) (fun _ _ agreed => agreed) ⟨parent, speaker, lt_nextLineId found⟩
  repliesAnswered := by
    have still : (m.lines.insert m.nextLineId r).get? p = some l :=
      Table.get?_insert_new line?_nextLineId found
    -- The listers first: the reply itself lists nothing, the line it answers lists one more.
    have listers : Table.Answered ((m.lines.insert m.nextLineId r).insert p
        { l with children := l.children ++ [m.nextLineId] }) m.lines DialogueLine.children
        DialogueLine.parent := by
      refine (h.repliesAnswered.set_lister ?_).set_lister ?_
      · intro a ha
        cases line?_nextLineId.symm.trans ha
      · intro a ha
        obtain rfl : l = a := Option.some.inj (still.symm.trans ha)
        exact List.subset_append_left _ _
    refine (listers.set_listed ?_).set_listed ?_
    · intro q named
      obtain rfl : p = q := Option.some.inj (parent.symm.trans named)
      exact ⟨_, Table.get?_insert_self, List.mem_append_right _ (List.mem_singleton_self _)⟩
    · intro q named
      exact listers p l q found named
  older := h.older

end Linked

/-! ## Constructions -/

/-- What a step of a construction does keeps the links. -/
theorem Change.linked {m' : StoryModel} {links : ComponentId → ComponentId → Prop}
    (change : m.Change links m') (h : m.Linked) : m'.Linked := by
  cases change with
  | inserted known bare => exact h.inserted known bare
  | childAdded found bare replaces children blocks _ =>
    exact h.childAdded found bare replaces children blocks
  | replaced found replaces children blocks _ =>
    exact h.replaced found replaces blocks (h.children.change found children (fun _ _ owned => owned)
      fun _ _ owned => replaces.owner.trans owned)
  | followed found _ _ replaces children blocks _ =>
    exact h.replaced found replaces blocks (h.children.change found children (fun _ _ owned => owned)
      fun _ _ owned => replaces.owner.trans owned)
  | blockAdded found replaces children blocks _ own owner blank =>
    exact h.blockAdded found replaces children blocks own owner blank
  | variableAdded found own owner further => exact h.variableAdded found own owner further
  | slotSet name slot =>
    exact ⟨⟨h.keyed.components, h.keyed.codeBlocks, h.keyed.lines⟩, h.rooted, h.children, h.blocks,
      h.blocksAnswered, h.knowIts, h.replies, h.repliesAnswered, h.older⟩
  | lineAdded text speaker => exact h.lineAdded text speaker
  | replyAdded found own parent blank speaker => exact h.replyAdded found own parent blank speaker

/-- One operation keeps a story linked. -/
theorem linked_after (h : m.Linked) {op : Operation} (plain : op.Plain) : (m.after op).Linked := by
  rcases ends_step m op with ⟨e, refused⟩ | ⟨m', done, change⟩
  · rw [after, refused]
    exact h
  · rw [after, done]
    exact (change plain).linked h

/-- So does every construction. -/
theorem linked_afterAll (h : m.Linked) {ops : List Operation} (plain : ∀ op ∈ ops, op.Plain) :
    (m.afterAll ops).Linked := by
  induction ops generalizing m with
  | nil => exact h
  | cons op rest ih =>
    have first : (m.after op).Linked := linked_after h (plain op List.mem_cons_self)
    exact ih first fun op' later => plain op' (List.mem_cons_of_mem op later)

/-- The story of a single point is linked. -/
theorem linked_start (text : String) : (start text).Linked where
  keyed := by
    refine ⟨Table.forall_entries_insert ?_ rfl, ?_, ?_⟩ <;> exact fun _ none => nomatch none
  rooted := ⟨_, rfl, rfl⟩
  children := (Table.Listing.empty _ _ _).add rfl rfl
  blocks := (Table.Listing.empty _ _ _).add_lister rfl
  blocksAnswered _ _ _ nothing := nomatch nothing
  knowIts := Table.Listing.empty _ _ _
  replies := Table.Listing.empty _ _ _
  repliesAnswered _ _ _ nothing := nomatch nothing
  older := by
    rintro o x ⟨k, hk, named⟩
    rcases Table.of_get?_insert (t := Table.empty) hk with ⟨-, rfl⟩ | ⟨-, nothing⟩
    · cases named
    · cases nothing

/-- A story under construction has its links right. -/
theorem linked_construction (text : String) {ops : List Operation} (plain : ∀ op ∈ ops, op.Plain) :
    ((start text).afterAll ops).Linked :=
  linked_afterAll (linked_start text) plain

/-! ## Owner chains -/

/-- Who is above a component on its owner chain has a smaller number. -/
theorem OwnersOlder.lt_of_above (h : m.OwnersOlder) {x y : ComponentId}
    (above : Relation.TransGen m.Owns x y) : x.number < y.number := by
  induction above with
  | single owns => exact (h _ _ owns).1
  | tail _ owns ih => exact Nat.lt_trans ih (h _ _ owns).1

/-- Owners are older, so nothing owns itself from above. -/
theorem OwnersOlder.not_above_self (h : m.OwnersOlder) (x : ComponentId) :
    ¬ Relation.TransGen m.Owns x x :=
  fun cycle => Nat.lt_irrefl _ (h.lt_of_above cycle)

end StoryModel
end StoryLoom
