import StoryLoom.Story.Construction

/-!
# Change — what a step of a construction does to a story

- `ComponentKind.Bare`, `Operation.Plain` : what is passed to a step lists nothing itself
- `Operation.Links`    : which component a step is to make follow which
- `StoryModel.Change`  : the ways in which a step changes a story
- `StoryModel.ends_step` : a step is refused and leaves the story as it is, or makes one of these changes

No edit is refused after it has written something: an edit that looks an object up a second time finds
it, as nothing takes objects away.
-/

namespace StoryLoom

/-! ## Evaluating edits -/

namespace Edit

variable {α β : Type}

theorem get_apply (m : StoryModel) : (get : Edit StoryModel) m = .ok m m := rfl

theorem modify_apply (f : StoryModel → StoryModel) (m : StoryModel) :
    (modify f : Edit Unit) m = .ok () (f m) := rfl

theorem always_apply (step : StoryModel → StoryModel × α) (m : StoryModel) :
    always step m = .ok (step m).2 (step m).1 := rfl

theorem bind_of_ok {x : Edit α} {f : α → Edit β} {m m' : StoryModel} {a : α}
    (h : x m = .ok a m') : (x >>= f) m = f a m' := by
  simp only [bind, EStateM.bind, h]

theorem bind_of_error {x : Edit α} {f : α → Edit β} {m m' : StoryModel} {e : ModelError}
    (h : x m = .error e m') : (x >>= f) m = .error e m' := by
  simp only [bind, EStateM.bind, h]

theorem discard_of_ok {x : Edit α} {m m' : StoryModel} {a : α} (h : x m = .ok a m') :
    (discard x : Edit Unit) m = .ok () m' := by
  change EStateM.map _ x m = _
  simp only [EStateM.map, h, Function.const]

theorem discard_of_error {x : Edit α} {m m' : StoryModel} {e : ModelError}
    (h : x m = .error e m') : (discard x : Edit Unit) m = .error e m' := by
  change EStateM.map _ x m = _
  simp only [EStateM.map, h]

variable {m : StoryModel}

theorem component_of_some {id : ComponentId} {c : Component} (h : m.component? id = some c) :
    component id m = .ok c m := by
  rw [component, bind_of_ok (get_apply m), h]
  rfl

theorem component_of_none {id : ComponentId} (h : m.component? id = none) :
    component id m = .error (.unknownComponent id) m := by
  rw [component, bind_of_ok (get_apply m), h]
  rfl

theorem codeBlock_of_some {id : CodeBlockId} {b : CodeBlock} (h : m.codeBlock? id = some b) :
    codeBlock id m = .ok b m := by
  rw [codeBlock, bind_of_ok (get_apply m), h]
  rfl

theorem codeBlock_of_none {id : CodeBlockId} (h : m.codeBlock? id = none) :
    codeBlock id m = .error (.unknownCodeBlock id) m := by
  rw [codeBlock, bind_of_ok (get_apply m), h]
  rfl

theorem line_of_some {id : LineId} {l : DialogueLine} (h : m.line? id = some l) :
    line id m = .ok l m := by
  rw [line, bind_of_ok (get_apply m), h]
  rfl

theorem line_of_none {id : LineId} (h : m.line? id = none) :
    line id m = .error (.unknownLine id) m := by
  rw [line, bind_of_ok (get_apply m), h]
  rfl

theorem setKind_of_some {id : ComponentId} {c : Component} (kind : ComponentKind)
    (h : m.component? id = some c) :
    setKind id kind m = .ok () (m.putComponent id { c with kind := kind }) := by
  rw [setKind, bind_of_ok (component_of_some h)]
  rfl

/-- A component that holds children lists the new one. -/
theorem noteChild_of_some {parent child : ComponentId} {p : Component} {kind : ComponentKind}
    (found : m.component? parent = some p) (h : p.kind.addChild? child = some kind) :
    noteChild parent child m = .ok () (m.putComponent parent { p with kind := kind }) := by
  rw [noteChild, bind_of_ok (component_of_some found), h]
  exact setKind_of_some kind found

/-- A script gets a block of its own. -/
theorem addCodeBlock_of_script {script : ComponentId} {c : Component} {s : ScriptIt}
    (block : CodeBlock) (found : m.component? script = some c) (own : c.kind = .scriptIt s) :
    addCodeBlock script block m = .ok m.nextCodeBlockId
      ((m.putComponent script { c with kind := .scriptIt { s with
        codeBlocks := s.codeBlocks ++ [m.nextCodeBlockId] } }).putBlock m.nextCodeBlockId
          { block with id := m.nextCodeBlockId, owner := some script }) := by
  rw [addCodeBlock, bind_of_ok (get_apply m), bind_of_ok (component_of_some found), own]
  exact bind_of_ok (setKind_of_some _ found)

/-- What is no script is refused. -/
theorem addCodeBlock_of_other {script : ComponentId} {c : Component} (block : CodeBlock)
    (found : m.component? script = some c) (other : c.script? = none) :
    addCodeBlock script block m = .error (.wrongKind script "script") m := by
  rw [addCodeBlock, bind_of_ok (get_apply m), bind_of_ok (component_of_some found)]
  obtain ⟨id, text, owner, kind⟩ := c
  cases kind <;> first | rfl | cases other

end Edit

/-! ## What is passed to a step -/

/-- A kind that lists nothing and has no sides. -/
def ComponentKind.Bare : ComponentKind → Prop
  | storyPoint p => p.children = [] ∧ p.successors = []
  | scriptIt s => s.codeBlocks = [] ∧ s.children = []
  | knowIt _ => True
  | askIt a => a.ifChild = none ∧ a.elseChild = none
  | container children => children = []
  | note => True
  | task t => t.children = [] ∧ t.successors = []
  | behaviour children => children = []

/-- Nothing that is passed to a step lists anything itself. -/
def Operation.Plain : Operation → Prop
  | addChild _ _ kind => kind.Bare
  | addOwned _ _ kind => kind.Bare
  | addDetached _ kind => kind.Bare
  | addCodeBlock _ block => block.parameters = [] ∧ block.implicits = []
  | _ => True

/-- Whether a step is to make the second component follow the first. -/
def Operation.Links : Operation → ComponentId → ComponentId → Prop
  | link source target, x, y => x = source ∧ y = target
  | _, _, _ => False

/-- A bare kind lists no child. -/
theorem ComponentKind.Bare.childIds_eq {kind : ComponentKind} (h : kind.Bare) :
    kind.childIds = [] := by
  cases kind with
  | storyPoint p => exact h.1
  | scriptIt s => exact h.2
  | knowIt k => rfl
  | askIt a =>
    obtain ⟨left, right⟩ := h
    simp [ComponentKind.childIds, left, right]
  | container children => exact h
  | note => rfl
  | task t => exact h.1
  | behaviour children => exact h

theorem ComponentKind.Bare.blockIds_eq {c : Component} (h : c.kind.Bare) : c.blockIds = [] := by
  obtain ⟨id, text, owner, kind⟩ := c
  cases kind with
  | scriptIt s => exact h.1
  | storyPoint p => rfl
  | knowIt k => rfl
  | askIt a => rfl
  | container children => rfl
  | note => rfl
  | task t => rfl
  | behaviour children => rfl

/-! ## The changes -/

def Component.followers (c : Component) : List ComponentId :=
  match c.kind with
  | .storyPoint p => p.successors
  | .task t => t.successors
  | _ => []

theorem ComponentKind.Bare.followers_eq {c : Component} (h : c.kind.Bare) : c.followers = [] := by
  obtain ⟨id, text, owner, kind⟩ := c
  cases kind with
  | storyPoint p => exact h.2
  | task t => exact h.2
  | scriptIt s => rfl
  | knowIt k => rfl
  | askIt a => rfl
  | container children => rfl
  | note => rfl
  | behaviour children => rfl

/-- One component in place of another: it has the number and the owner of the other, and is a variable,
a story point or a task just if the other is. -/
structure Component.Replaces (d c : Component) : Prop where
  id : d.id = c.id
  owner : d.owner = c.owner
  isVariable : d.knowIt?.isSome = c.knowIt?.isSome
  isPoint : d.storyPoint?.isSome = c.storyPoint?.isSome
  isTask : d.task?.isSome = c.task?.isSome

/-- The ways in which a step changes a story, where `links` tells which component is to follow which. -/
inductive StoryModel.Change (m : StoryModel) (links : ComponentId → ComponentId → Prop) :
    StoryModel → Prop
  /-- A new component that nothing lists. -/
  | inserted {owner : Option ComponentId} {text : String} {kind : ComponentKind}
      (known : ∀ o, owner = some o → ∃ c, m.component? o = some c) (bare : kind.Bare) :
      Change m links (m.insertComponent owner text kind).1
  /-- A new component that is listed as a child. -/
  | childAdded {parent : ComponentId} {p d : Component} {text : String} {kind : ComponentKind}
      (found : m.component? parent = some p) (bare : kind.Bare) (replaces : d.Replaces p)
      (children : d.childIds = p.childIds ++ [m.nextComponentId])
      (blocks : d.blockIds = p.blockIds) (followers : d.followers = p.followers) :
      Change m links ((m.insertComponent (some parent) text kind).1.putComponent parent d)
  /-- A component that keeps all it lists. -/
  | replaced {id : ComponentId} {c d : Component} (found : m.component? id = some c)
      (replaces : d.Replaces c) (children : d.childIds = c.childIds)
      (blocks : d.blockIds = c.blockIds) (followers : d.followers = c.followers) :
      Change m links (m.putComponent id d)
  /-- A component that is followed by one more, which exists. -/
  | followed {id x : ComponentId} {c d e : Component} (found : m.component? id = some c)
      (there : m.component? x = some e) (asked : links id x) (replaces : d.Replaces c)
      (children : d.childIds = c.childIds) (blocks : d.blockIds = c.blockIds)
      (followers : d.followers = c.followers ++ [x]) :
      Change m links (m.putComponent id d)
  /-- A new code block that its script lists. -/
  | blockAdded {script : ComponentId} {c d : Component} {b : CodeBlock}
      (found : m.component? script = some c) (replaces : d.Replaces c)
      (children : d.childIds = c.childIds) (blocks : d.blockIds = c.blockIds ++ [m.nextCodeBlockId])
      (followers : d.followers = c.followers) (id : b.id = m.nextCodeBlockId)
      (owner : b.owner = some script) (blank : b.variables = []) :
      Change m links ((m.putComponent script d).putBlock m.nextCodeBlockId b)
  /-- A new variable that a code block lists. -/
  | variableAdded {n : CodeBlockId} {b b' : CodeBlock} {text : String} {knowIt : KnowIt}
      (found : m.codeBlock? n = some b) (id : b'.id = b.id) (owner : b'.owner = b.owner)
      (further : b'.variables.Perm (m.nextComponentId :: b.variables)) :
      Change m links ((m.insertComponent b.owner text (.knowIt knowIt)).1.putBlock n b')
  | slotSet (name : String) (slot : Slot) : Change m links (m.setSlot name slot)
  /-- A new line that opens a conversation. -/
  | lineAdded (text : String) (speaker : Speaker) :
      Change m links (m.addDialogueRoot text speaker).1
  /-- A new line that another one lists. -/
  | replyAdded {p : LineId} {l r : DialogueLine} (found : m.line? p = some l)
      (id : r.id = m.nextLineId) (parent : r.parent = some p) (blank : r.children = [])
      (speaker : r.speaker = l.speaker.other) :
      Change m links ((m.putLine m.nextLineId r).putLine p
        { l with children := l.children ++ [m.nextLineId] })

/-- What becomes of a component when a child is noted at the end of its list. -/
theorem ComponentKind.of_addChild? {c : Component} {kind : ComponentKind} {child : ComponentId}
    (h : c.kind.addChild? child = some kind) :
    ({ c with kind := kind } : Component).Replaces c ∧ kind.childIds = c.childIds ++ [child] ∧
      ({ c with kind := kind } : Component).blockIds = c.blockIds ∧
      ({ c with kind := kind } : Component).followers = c.followers := by
  obtain ⟨id, text, owner, k⟩ := c
  cases k with
  | storyPoint p => cases h; exact ⟨⟨rfl, rfl, rfl, rfl, rfl⟩, rfl, rfl, rfl⟩
  | scriptIt s => cases h; exact ⟨⟨rfl, rfl, rfl, rfl, rfl⟩, rfl, rfl, rfl⟩
  | knowIt k => cases h
  | askIt a => cases h
  | container children => cases h; exact ⟨⟨rfl, rfl, rfl, rfl, rfl⟩, rfl, rfl, rfl⟩
  | note => cases h
  | task t => cases h; exact ⟨⟨rfl, rfl, rfl, rfl, rfl⟩, rfl, rfl, rfl⟩
  | behaviour children => cases h; exact ⟨⟨rfl, rfl, rfl, rfl, rfl⟩, rfl, rfl, rfl⟩

/-- What can hold children takes any. -/
theorem ComponentKind.exists_addChild? {kind : ComponentKind} (child : ComponentId)
    (h : kind.holdsChildren = true) : ∃ kind', kind.addChild? child = some kind' := by
  cases kind with
  | storyPoint p => exact ⟨_, rfl⟩
  | scriptIt s => exact ⟨_, rfl⟩
  | knowIt k => cases h
  | askIt a => cases h
  | container children => exact ⟨_, rfl⟩
  | note => cases h
  | task t => exact ⟨_, rfl⟩
  | behaviour children => exact ⟨_, rfl⟩

/-! ## How each step ends -/

namespace StoryModel

/-- A step is refused and leaves the story as it is, or it changes it in one of the ways, provided that
what is passed to it is plain. -/
def Ends (m : StoryModel) (x : Edit Unit) (plain : Prop) (links : ComponentId → ComponentId → Prop) :
    Prop :=
  (∃ e, x m = .error e m) ∨ ∃ m', x m = .ok () m' ∧ (plain → m.Change links m')

variable {m : StoryModel} {links : ComponentId → ComponentId → Prop}

/-- A child ends under its parent, or nothing is changed. -/
theorem ends_addChild (parent : ComponentId) (text : String) (kind : ComponentKind) :
    m.Ends (discard (Edit.addChild parent text kind)) kind.Bare links := by
  cases found : m.component? parent with
  | none =>
    left
    exact ⟨_, Edit.discard_of_error (Edit.bind_of_error (Edit.component_of_none found))⟩
  | some p =>
    have first := Edit.component_of_some found
    cases holds : p.kind.holdsChildren with
    | false =>
      left
      refine ⟨.notAContainer parent, Edit.discard_of_error ?_⟩
      rw [Edit.addChild, Edit.bind_of_ok first, holds]
      rfl
    | true =>
      right
      obtain ⟨kind', added⟩ := ComponentKind.exists_addChild? m.nextComponentId holds
      obtain ⟨replaces, children, blocks, followers⟩ := ComponentKind.of_addChild? added
      refine ⟨(m.insertComponent (some parent) text kind).1.putComponent parent
        { p with kind := kind' }, Edit.discard_of_ok (a := m.nextComponentId) ?_,
        fun bare => .childAdded found bare replaces children blocks followers⟩
      -- The parent is still there when it is looked up for the second time.
      have still : (m.insertComponent (some parent) text kind).1.component? parent = some p :=
        Table.get?_insert_new component?_nextComponentId found
      have noted := Edit.noteChild_of_some still added
      rw [Edit.addChild, Edit.bind_of_ok first, holds, if_pos rfl,
        Edit.bind_of_ok (Edit.always_apply _ m)]
      exact Edit.bind_of_ok noted

/-- So does what is owned without being listed. -/
theorem ends_addOwned (owner : ComponentId) (text : String) (kind : ComponentKind) :
    m.Ends (discard (Edit.addOwned owner text kind)) kind.Bare links := by
  cases found : m.component? owner with
  | none =>
    left
    exact ⟨_, Edit.discard_of_error (Edit.bind_of_error (Edit.component_of_none found))⟩
  | some c =>
    right
    refine ⟨_, Edit.discard_of_ok (Edit.bind_of_ok (Edit.component_of_some found)), ?_⟩
    intro bare
    refine .inserted ?_ bare
    intro o same
    cases same
    exact ⟨c, found⟩

/-- Setting the kind of a known component ends as the change that this is. -/
theorem ends_setKind {id : ComponentId} {c : Component} {kind : ComponentKind}
    (found : m.component? id = some c)
    (change : m.Change links (m.putComponent id { c with kind := kind })) :
    m.Ends (Edit.setKind id kind) True links :=
  .inr ⟨_, Edit.setKind_of_some kind found, fun _ => change⟩

/-- A link changes the followers of its source. -/
theorem ends_link (source target : ComponentId) :
    m.Ends (Edit.link source target) True (Operation.link source target).Links := by
  -- Both ends are demanded before anything is written, the target first.
  cases hd : m.component? target with
  | none => exact .inl ⟨_, Edit.bind_of_error (Edit.component_of_none hd)⟩
  | some d =>
    cases hc : m.component? source with
    | none =>
      left
      refine ⟨.unknownComponent source, ?_⟩
      rw [Edit.link, Edit.bind_of_ok (Edit.component_of_some hd)]
      exact Edit.bind_of_error (Edit.component_of_none hc)
    | some c =>
      unfold Ends
      rw [Edit.link, Edit.bind_of_ok (Edit.component_of_some hd),
        Edit.bind_of_ok (Edit.component_of_some hc)]
      obtain ⟨id, text, owner, kind⟩ := c
      cases kind with
      | storyPoint p =>
        exact ends_setKind hc (.followed hc hd ⟨rfl, rfl⟩ ⟨rfl, rfl, rfl, rfl, rfl⟩ rfl rfl rfl)
      | task t =>
        exact ends_setKind hc (.followed hc hd ⟨rfl, rfl⟩ ⟨rfl, rfl, rfl, rfl, rfl⟩ rfl rfl rfl)
      | scriptIt s => exact .inl ⟨_, rfl⟩
      | knowIt k => exact .inl ⟨_, rfl⟩
      | askIt a => exact .inl ⟨_, rfl⟩
      | container children => exact .inl ⟨_, rfl⟩
      | note => exact .inl ⟨_, rfl⟩
      | behaviour children => exact .inl ⟨_, rfl⟩

/-- Binding a value changes nothing but the value. -/
theorem ends_setBinding (id : ComponentId) (binding : Binding) :
    m.Ends (Edit.setBinding id binding) True links := by
  cases hc : m.component? id with
  | none => exact .inl ⟨_, Edit.bind_of_error (Edit.component_of_none hc)⟩
  | some c =>
    unfold Ends
    rw [Edit.setBinding, Edit.bind_of_ok (Edit.component_of_some hc)]
    obtain ⟨number, text, owner, kind⟩ := c
    cases kind with
    | knowIt k => exact ends_setKind hc (.replaced hc ⟨rfl, rfl, rfl, rfl, rfl⟩ rfl rfl rfl)
    | storyPoint p => exact .inl ⟨_, rfl⟩
    | scriptIt s => exact .inl ⟨_, rfl⟩
    | askIt a => exact .inl ⟨_, rfl⟩
    | container children => exact .inl ⟨_, rfl⟩
    | note => exact .inl ⟨_, rfl⟩
    | task t => exact .inl ⟨_, rfl⟩
    | behaviour children => exact .inl ⟨_, rfl⟩

/-- A block ends in the list of its script. -/
theorem ends_addCodeBlock (script : ComponentId) (block : CodeBlock) :
    m.Ends (discard (Edit.addCodeBlock script block))
      (block.parameters = [] ∧ block.implicits = []) links := by
  cases found : m.component? script with
  | none =>
    left
    refine ⟨.unknownComponent script, Edit.discard_of_error ?_⟩
    rw [Edit.addCodeBlock, Edit.bind_of_ok (Edit.get_apply m)]
    exact Edit.bind_of_error (Edit.component_of_none found)
  | some c =>
    -- The script is changed before the block is stored, but nothing can be refused in between.
    cases own : c.script? with
    | none =>
      left
      exact ⟨_, Edit.discard_of_error (Edit.addCodeBlock_of_other block found own)⟩
    | some s =>
      right
      obtain ⟨number, text, owner, kind⟩ := c
      cases kind <;> cases own
      refine ⟨_, Edit.discard_of_ok (Edit.addCodeBlock_of_script block found rfl), ?_⟩
      rintro ⟨noParameters, noImplicits⟩
      refine .blockAdded found ⟨rfl, rfl, rfl, rfl, rfl⟩ rfl rfl rfl rfl rfl ?_
      simp [CodeBlock.variables, noParameters, noImplicits]

/-- A variable of a block is a new component that its script owns. -/
theorem ends_addVariable (n : CodeBlockId) (text : String) (knowIt : KnowIt)
    (note : ComponentId → CodeBlock → CodeBlock)
    (id : ∀ x b, (note x b).id = b.id) (owner : ∀ x b, (note x b).owner = b.owner)
    (further : ∀ x b, (note x b).variables.Perm (x :: b.variables)) :
    m.Ends (discard (Edit.addVariable n text knowIt note)) True links := by
  cases found : m.codeBlock? n with
  | none =>
    left
    exact ⟨_, Edit.discard_of_error (Edit.bind_of_error (Edit.codeBlock_of_none found))⟩
  | some b =>
    right
    refine ⟨(m.insertComponent b.owner text (.knowIt knowIt)).1.putBlock n
      (note m.nextComponentId b), Edit.discard_of_ok (a := m.nextComponentId) ?_,
      fun _ => .variableAdded found (id _ b) (owner _ b) (further _ b)⟩
    -- The new variable touches no block, so the block that is changed is the one looked up.
    have stored : m.codeBlocks.modify n (note m.nextComponentId) =
        m.codeBlocks.insert n (note m.nextComponentId b) := by
      rw [codeBlock?] at found
      simp only [Table.modify, found]
    rw [Edit.addVariable, Edit.bind_of_ok (Edit.codeBlock_of_some found),
      Edit.bind_of_ok (Edit.always_apply _ m), Edit.bind_of_ok (Edit.modify_apply _ _)]
    exact congrArg (fun blocks => EStateM.Result.ok m.nextComponentId
      { (m.insertComponent b.owner text (.knowIt knowIt)).1 with codeBlocks := blocks }) stored

/-- A reply ends under the line it answers. -/
theorem ends_addDialogueReply (p : LineId) (text : String) :
    m.Ends (discard (Edit.addDialogueReply p text)) True links := by
  cases found : m.line? p with
  | none =>
    left
    exact ⟨_, Edit.discard_of_error (Edit.bind_of_error (Edit.line_of_none found))⟩
  | some l =>
    right
    let r : DialogueLine :=
      { id := m.nextLineId, text := text, speaker := l.speaker.other, parent := some p }
    refine ⟨(m.putLine m.nextLineId r).putLine p
      { l with children := l.children ++ [m.nextLineId] },
      Edit.discard_of_ok (a := m.nextLineId) ?_, fun _ => .replyAdded found rfl rfl rfl rfl⟩
    -- The line that is answered is still there, as the reply has a new number.
    have still : (m.lines.insert m.nextLineId r).get? p = some l :=
      Table.get?_insert_new line?_nextLineId found
    rw [Edit.addDialogueReply, Edit.bind_of_ok (Edit.line_of_some found),
      Edit.bind_of_ok (Edit.get_apply m), Edit.bind_of_ok (Edit.modify_apply _ m),
      Edit.bind_of_ok (Edit.modify_apply _ _)]
    simp only [putLine, Table.modify, r] at still ⊢
    rw [still]
    rfl

/-- A step is refused and leaves the story as it is, or it changes it in one of the ways. -/
theorem ends_step (m : StoryModel) (op : Operation) : m.Ends op.edit op.Plain op.Links := by
  -- What is added without an owner is in no list; the other steps have lemmas of their own.
  cases op with
  | addChild parent text kind => exact ends_addChild parent text kind
  | addOwned owner text kind => exact ends_addOwned owner text kind
  | addDetached text kind =>
    refine .inr ⟨_, rfl, fun bare => .inserted ?_ bare⟩
    intro o same
    cases same
  | addStoryPoint text fanIn =>
    refine .inr ⟨_, rfl, fun _ => .inserted ?_ ⟨rfl, rfl⟩⟩
    intro o same
    cases same
  | addCodeBlock script block => exact ends_addCodeBlock script block
  | addParameter block text knowIt =>
    refine ends_addVariable block text knowIt _ (fun _ _ => rfl) (fun _ _ => rfl) ?_
    intro x b
    simp only [CodeBlock.variables]
    rw [List.append_assoc]
    exact List.perm_middle
  | addImplicit block text knowIt =>
    refine ends_addVariable block text knowIt _ (fun _ _ => rfl) (fun _ _ => rfl) ?_
    intro x b
    simp only [CodeBlock.variables]
    rw [← List.append_assoc]
    exact List.perm_append_singleton x _
  | link source target => exact ends_link source target
  | setBinding id binding => exact ends_setBinding id binding
  | setSlot name slot => exact .inr ⟨_, rfl, fun _ => .slotSet name slot⟩
  | addDialogueRoot text speaker => exact .inr ⟨_, rfl, fun _ => .lineAdded text speaker⟩
  | addDialogueReply parent text => exact ends_addDialogueReply parent text

end StoryModel
end StoryLoom
