import Mathlib.Data.List.Permutation
import StoryLoom.Pattern.Compile
import StoryLoom.Proofs.Generation.Agreement
import StoryLoom.Proofs.Generation.Pieces
import StoryLoom.Proofs.List.EraseDups
import StoryLoom.Proofs.Story.Leftover
import StoryLoom.Proofs.Table.Listing

/-!
# Places — the place of an element in its series, asked of the element

- `StoryModel.ListedOnce` : no number is listed twice, all lists of a story together
- `StoryModel.Settled`    : such a story in which every object is owned by what lists it
- `ListedOnce.settled`    : setting the links anew makes it so
- `index?_of_child`, `index?_of_parameter`, `index?_of_reply` : the place of what is listed
- `series_children`, `series_parameters`, `series_childLines` : what a series lists, and who lists it
- `places_count_elements` : the places that a series counts

A series reads a list from its owner downward. The place is asked of the element, which finds the owner by its
link and searches the children first. The two agree where the link leads back to the list, and where nothing
that is a parameter is a child as well.
-/

namespace StoryLoom

/-! ## Lists without repetition -/

/-- The place of an element in a list without repetition. -/
theorem idxOf?_of_nodup {α : Type} [DecidableEq α] {l : List α} {place : Nat} {a : α} (distinct : l.Nodup)
    (here : l[place]? = some a) : l.idxOf? a = some place := by
  obtain ⟨bound, rfl⟩ := List.getElem?_eq_some_iff.1 here
  refine List.idxOf?_eq_some_iff.2 ⟨bound, rfl, ?_⟩
  intro j before same
  exact Nat.ne_of_lt before ((List.Nodup.getElem_inj_iff distinct).1 same)

namespace StoryModel

variable {m : StoryModel}

/-- No number is listed twice: neither among the children of all components, their branches and conditions and
the variables of all blocks together, nor among the blocks of all scripts, nor among the replies of all
lines. -/
structure ListedOnce (m : StoryModel) : Prop where
  components : (m.components.values.flatMap claims ++ m.codeBlocks.values.flatMap CodeBlock.variables).Nodup
  codeBlocks : (m.components.values.flatMap Component.blockIds).Nodup
  lines : (m.lines.values.flatMap DialogueLine.children).Nodup

/-- No number is listed twice, and every object is owned by the one that lists it. -/
structure Settled (m : StoryModel) : Prop where
  keyed : m.Keyed
  once : m.ListedOnce
  owner : ∀ {x k p}, m.component? x = some k → m.Claims p x → k.owner = some p
  parent : ∀ {x l p}, m.line? x = some l → m.HasReply p x → l.parent = some p

namespace ListedOnce

variable {p q x : ComponentId} {k k' : Component} {n : CodeBlockId} {b : CodeBlock}

/-- A component listed once has each child once. -/
theorem nodup_childIds (h : m.ListedOnce) (hk : m.component? p = some k) : k.childIds.Nodup := by
  have claimed : (claims k).Nodup := Table.nodup_of_nodup_lists (List.nodup_append.1 h.components).1 hk
  exact (List.nodup_append.1 claimed).1

/-- What a component claims is no variable of a block. -/
theorem not_mem_variables (h : m.ListedOnce) (hk : m.component? p = some k) (hx : x ∈ claims k)
    (hb : m.codeBlock? n = some b) : x ∉ b.variables := by
  intro hx'
  have claimed := Table.mem_flatMap_values.2 ⟨p, k, hk, hx⟩
  have listed := Table.mem_flatMap_values.2 ⟨n, b, hb, hx'⟩
  exact (List.nodup_append.1 h.components).2.2 x claimed x listed rfl

/-- A claim is made by a component itself, or through a block that it lists. -/
theorem claims_cases (claim : m.Claims p x) : (∃ k, m.component? p = some k ∧ x ∈ claims k) ∨
    ∃ n b, m.ListsBlock p n ∧ m.codeBlock? n = some b ∧ x ∈ b.variables := by
  rcases claim with ⟨k, hk, child⟩ | ⟨k, a, hk, branch, condition⟩ | blocks
  · exact .inl ⟨k, hk, mem_claims.2 (.inl child)⟩
  · exact .inl ⟨k, hk, mem_claims.2 (.inr ⟨a, branch, condition⟩)⟩
  · exact .inr blocks

/-- What is listed once is claimed once, so rebuilding settles its owner. -/
theorem claimedOnce (h : m.ListedOnce) : m.ClaimedOnce where
  component := by
    intro x p q hp hq
    have direct := (List.nodup_append.1 h.components).1
    have listed := (List.nodup_append.1 h.components).2.1
    -- Each claim is a listed child or a variable of a listed block, and no number is both.
    rcases claims_cases hp with ⟨k, hk, hx⟩ | ⟨n, b, lists, hb, hx⟩ <;>
      rcases claims_cases hq with ⟨k', hk', hx'⟩ | ⟨n', b', lists', hb', hx'⟩
    · exact Table.eq_of_nodup_lists direct hk hk' hx hx'
    · exact absurd hx' (h.not_mem_variables hk hx hb')
    · exact absurd hx (h.not_mem_variables hk' hx' hb)
    · -- One block lists the variable, and one script the block.
      obtain rfl : n = n' := Table.eq_of_nodup_lists listed hb hb' hx hx'
      obtain ⟨c, hc, among⟩ := lists
      obtain ⟨c', hc', among'⟩ := lists'
      exact Table.eq_of_nodup_lists h.codeBlocks hc hc' among among'
  codeBlock := by
    rintro n p q ⟨c, hc, among⟩ ⟨c', hc', among'⟩
    exact Table.eq_of_nodup_lists h.codeBlocks hc hc' among among'
  line := by
    rintro x p q ⟨l, hl, reply⟩ ⟨l', hl', reply'⟩
    exact Table.eq_of_nodup_lists h.lines hl hl' reply reply'

/-- Links do not change what is listed. -/
theorem rebuilt (h : m.ListedOnce) (o : m.Order) : o.rebuilt.ListedOnce where
  components := by
    have claimed : o.rebuilt.components.values.flatMap claims = m.components.values.flatMap claims :=
      Table.flatMap_values_mapValues fun _ _ => rfl
    have listed : o.rebuilt.codeBlocks.values.flatMap CodeBlock.variables =
        m.codeBlocks.values.flatMap CodeBlock.variables := Table.flatMap_values_mapValues fun _ _ => rfl
    rw [claimed, listed]
    exact h.components
  codeBlocks := by
    have listed : o.rebuilt.components.values.flatMap Component.blockIds =
        m.components.values.flatMap Component.blockIds := Table.flatMap_values_mapValues fun _ _ => rfl
    rw [listed]
    exact h.codeBlocks
  lines := by
    have listed : o.rebuilt.lines.values.flatMap DialogueLine.children =
        m.lines.values.flatMap DialogueLine.children := Table.flatMap_values_mapValues fun _ _ => rfl
    rw [listed]
    exact h.lines

/-- Where no number is listed twice, setting the links anew settles the story. -/
theorem settled (h : m.ListedOnce) {m' : StoryModel} (rebuilt : m.IsRebuilt m') : m'.Settled := by
  obtain ⟨o, rfl⟩ := rebuilt.exists_order
  have relinked := o.relinked
  have same := o.sameStructure.symm
  exact {
    keyed := relinked.keyed
    once := h.rebuilt o
    owner := fun {x k p} stored claim => relinked.owner x k p stored (same.claims claim) fun q other =>
      h.claimedOnce.component x q p other (same.claims claim)
    parent := fun {x l p} stored reply => relinked.parent x l p stored (same.hasReply reply) fun q other =>
      h.claimedOnce.line x q p other (same.hasReply reply) }

end ListedOnce
end StoryModel

/-! ## The place that an element has -/

namespace Context

variable {s : Setting} {c inner : Context} {place : Nat}

/-- A child has its place among the children of its owner. -/
theorem index?_of_child (settled : s.model.Settled) {p x : ComponentId} {owner k : Component}
    (lister : s.model.component? p = some owner) (here : owner.childIds[place]? = some x)
    (stored : s.model.component? x = some k) (focus : c.focus = .component k) :
    c.index? s = some place := by
  have child : s.model.HasChild p x := ⟨owner, lister, List.mem_of_getElem? here⟩
  have own : k.owner = some p := settled.owner stored (.inl child)
  have number : k.id = x := settled.keyed.component_id stored
  have found : owner.childIds.idxOf? k.id = some place := by
    rw [number]
    exact idxOf?_of_nodup (settled.once.nodup_childIds lister) here
  simp only [index?, focus, Focus.component?, Option.bind_some, own, lister, found, Option.some_or]

/-- The parameters of a script are those of its blocks. -/
theorem mem_parametersOf {m : StoryModel} {k : Component} {x : ComponentId} (among : x ∈ m.parametersOf k) :
    ∃ n b, n ∈ k.blockIds ∧ m.codeBlock? n = some b ∧ x ∈ b.parameters := by
  unfold StoryModel.parametersOf at among
  split at among
  · next script isScript =>
    obtain ⟨b, blocks, hx⟩ := List.mem_flatMap.1 (List.mem_eraseDups.1 among)
    obtain ⟨n, hn, hb⟩ := List.mem_filterMap.1 blocks
    refine ⟨n, b, ?_, hb, hx⟩
    rw [Component.blockIds, isScript]
    exact hn
  · cases among

/-- A parameter is no child of its owner, and has its place among the parameters of all blocks. -/
theorem index?_of_parameter (settled : s.model.Settled) {p x : ComponentId} {owner k : Component}
    (lister : s.model.component? p = some owner) (here : (s.model.parametersOf owner)[place]? = some x)
    (stored : s.model.component? x = some k) (focus : c.focus = .component k) :
    c.index? s = some place := by
  obtain ⟨n, b, lists, block, parameter⟩ := mem_parametersOf (List.mem_of_getElem? here)
  have listed : x ∈ b.variables := List.mem_append_left _ parameter
  have own : k.owner = some p :=
    settled.owner stored (.inr (.inr ⟨n, b, ⟨owner, lister, lists⟩, block, listed⟩))
  have number : k.id = x := settled.keyed.component_id stored
  have noChild : owner.childIds.idxOf? k.id = none := by
    rw [number, List.idxOf?_eq_none_iff]
    intro child
    exact settled.once.not_mem_variables lister (StoryModel.mem_claims.2 (.inl child)) block listed
  have distinct : (s.model.parametersOf owner).Nodup := by
    unfold StoryModel.parametersOf
    split
    · exact EraseDups.nodup_eraseDups _
    · exact List.nodup_nil
  have found : (s.model.parametersOf owner).idxOf? k.id = some place := by
    rw [number]
    exact idxOf?_of_nodup distinct here
  simp only [index?, focus, Focus.component?, Option.bind_some, own, lister, noChild, found, Option.none_or]

/-- A reply has its place among the replies of the line it answers. -/
theorem index?_of_reply (settled : s.model.Settled) {p x : LineId} {lister l : DialogueLine}
    (listing : s.model.line? p = some lister) (here : lister.children[place]? = some x)
    (stored : s.model.line? x = some l) (focus : c.focus = .line l) : c.index? s = some place := by
  have reply : s.model.HasReply p x := ⟨lister, listing, List.mem_of_getElem? here⟩
  have parent : l.parent = some p := settled.parent stored reply
  have number : l.id = x := settled.keyed.line_id stored
  have distinct : lister.children.Nodup := Table.nodup_of_nodup_lists settled.once.lines listing
  have found : lister.children.idxOf? l.id = some place := by
    rw [number]
    exact idxOf?_of_nodup distinct here
  simp only [index?, focus, parent, Option.bind_some, listing, found]

/-! ## The lists that series read -/

/-- The children that a context offers are those of a component of the story, or none. -/
theorem series_children (stored : c.focus.Stored s.model) {elements : List Element}
    (offered : c.series s .children = .ok elements) :
    elements = [] ∨ ∃ p k, s.model.component? p = some k ∧ elements = componentElements k.childIds := by
  unfold series at offered
  cases focus : c.focus with
  | file root =>
    rw [focus] at offered stored
    obtain ⟨p, hp⟩ := stored
    cases offered
    exact .inr ⟨p, root, hp, rfl⟩
  | component k =>
    rw [focus] at offered stored
    obtain ⟨p, hp⟩ := stored
    refine .inr ⟨p, k, hp, ?_⟩
    unfold componentSeries at offered
    cases kind : k.kind with
    | scriptIt script =>
      simp only [kind] at offered
      cases offered
      rw [Component.childIds, kind, ComponentKind.childIds]
    | storyPoint | askIt | container | task | behaviour =>
      simp only [kind] at offered
      cases offered
      rfl
    | knowIt | note =>
      simp only [kind] at offered
      cases offered
  | block b =>
    rw [focus] at offered
    cases offered
    -- A block shows the children of the script it belongs to.
    cases owner : s.model.blockOwner? b with
    | none => exact .inl rfl
    | some k =>
      obtain ⟨p, -, hp⟩ := Option.bind_eq_some_iff.1 owner
      exact .inr ⟨p, k, hp, rfl⟩
  | binding knowIt view =>
    rw [focus] at offered
    cases view <;> cases offered
  | line l | text t =>
    rw [focus] at offered
    cases offered

/-- The parameters that a context offers, if it is on no block, are those of a component of the story. -/
theorem series_parameters (noBlock : ∀ b, c.focus ≠ .block b) (stored : c.focus.Stored s.model)
    {elements : List Element} (offered : c.series s .parameters = .ok elements) :
    ∃ p k, s.model.component? p = some k ∧ elements = componentElements (s.model.parametersOf k) := by
  unfold series at offered
  cases focus : c.focus with
  | component k =>
    rw [focus] at offered stored
    obtain ⟨p, hp⟩ := stored
    refine ⟨p, k, hp, ?_⟩
    unfold componentSeries at offered
    cases kind : k.kind with
    | scriptIt script =>
      simp only [kind] at offered
      cases offered
      rfl
    | storyPoint | askIt | container | task | behaviour | knowIt | note =>
      simp only [kind] at offered
      cases offered
  | binding knowIt view =>
    rw [focus] at offered stored
    obtain ⟨-, v, -, held⟩ := stored
    cases view with
    | function script =>
      cases offered
      -- The value of a variable is a component of the story.
      obtain ⟨p, hp⟩ : ∃ p, s.model.component? p = some script := by
        cases binding : v.binding with
        | function p =>
          rw [binding] at held
          obtain ⟨k, hk, same⟩ := Option.map_eq_some_iff.1 held
          cases same
          exact ⟨p, hk⟩
        | unbound | resource | reference | storyPoint | uninitialized | dialogue =>
          rw [binding] at held
          simp [BindingView.of?] at held
      exact ⟨p, script, hp, rfl⟩
    | unbound | resource | reference | storyPoint | uninitialized | dialogue => cases offered
  | block b => exact absurd focus (noBlock b)
  | file root | line l | text t =>
    rw [focus] at offered
    cases offered

/-- The replies that a context offers are those of a line of the story. -/
theorem series_childLines (stored : c.focus.Stored s.model) {elements : List Element}
    (offered : c.series s .childLines = .ok elements) :
    ∃ p l, s.model.line? p = some l ∧ elements = lineElements l.children := by
  unfold series at offered
  cases focus : c.focus with
  | line l =>
    rw [focus] at offered stored
    obtain ⟨p, hp⟩ := stored
    cases offered
    exact ⟨p, l, hp, rfl⟩
  | component k =>
    rw [focus] at offered
    unfold componentSeries at offered
    cases kind : k.kind <;> simp only [kind] at offered <;> cases offered
  | binding knowIt view =>
    rw [focus] at offered
    cases view <;> cases offered
  | file root | block b | text t =>
    rw [focus] at offered
    cases offered

end Context

/-- The series whose elements know their place: children, replies, and the parameters of a script, seen as
itself or as the value of a variable. -/
def SeriesKey.CountsIn (c : Context) : SeriesKey → Prop
  | .children => True
  | .childLines => True
  | .parameters => ∀ b, c.focus ≠ .block b
  | _ => False

namespace Context

variable {s : Setting} {c inner : Context} {place : Nat}

/-- An element of such a series finds its place. -/
theorem index?_of_element (settled : s.model.Settled) (stored : c.focus.Stored s.model) {key : SeriesKey}
    (counts : key.CountsIn c) {elements : List Element} (offered : c.series s key = .ok elements)
    {element : Element} (here : elements[place]? = some element) (entered : c.enter s element = .ok inner) :
    inner.index? s = some place := by
  -- What a series shows is read from a list of one owner, and each list leads back to that owner.
  cases key with
  | children =>
    rcases series_children stored offered with rfl | ⟨p, owner, lister, rfl⟩
    · cases here
    · rw [componentElements, List.getElem?_map] at here
      obtain ⟨x, listed, rfl⟩ := Option.map_eq_some_iff.1 here
      obtain ⟨k, found, focus⟩ := enterComponent_eq_ok entered
      exact index?_of_child settled lister listed found focus
  | parameters =>
    obtain ⟨p, owner, lister, rfl⟩ := series_parameters counts stored offered
    rw [componentElements, List.getElem?_map] at here
    obtain ⟨x, listed, rfl⟩ := Option.map_eq_some_iff.1 here
    obtain ⟨k, found, focus⟩ := enterComponent_eq_ok entered
    exact index?_of_parameter settled lister listed found focus
  | childLines =>
    obtain ⟨p, lister, listing, rfl⟩ := series_childLines stored offered
    rw [lineElements, List.getElem?_map] at here
    obtain ⟨x, listed, rfl⟩ := Option.map_eq_some_iff.1 here
    obtain ⟨l, found, focus⟩ := enterLine_eq_ok entered
    exact index?_of_reply settled listing listed found focus
  | _ => cases counts

/-- A context that knows its place writes it. -/
theorem data_index [PatternLibrary] (known : c.index? s = some place) (legal : Option String) (n : Namer) :
    c.data s .index legal n = .ok (.text (toString place)) n := by
  simp only [data, known]
  rfl

end Context

/-- In a story that lists no number twice, after its links are set, in whatever order the tables are read: the
elements of a series of children, of replies or of a script's parameters render their place, counted from 0.
So a whole series of places, if all its elements exist, counts up to its length. -/
theorem places_count_elements [PatternLibrary] {m : StoryModel} (once : m.ListedOnce) {s : Setting}
    (linked : m.IsRebuilt s.model) {c : Context} (h : c.Reachable s) {key : SeriesKey}
    (counts : key.CountsIn c) {elements : List Element} (offered : c.series s key = .ok elements)
    {label : String} (known : DataKey.parse? label = some .index) (legal : Option String) (n : Namer) :
    (∀ (place : Nat) element inner, elements[place]? = some element → c.enter s element = .ok inner →
      resolve s [.reference label legal] inner n = .ok (toString place) n) ∧
    ((∀ element ∈ elements, ∃ inner, c.enter s element = .ok inner) →
      ∀ source separator, SeriesKey.parse? source = some key →
        resolve s [.series source separator {} false [.reference label legal]] c n =
          .ok (separator.intercalate ((List.range elements.length).map toString)) n) := by
  have settled : s.model.Settled := once.settled linked
  have numbered : ∀ (place : Nat) element inner, elements[place]? = some element →
      c.enter s element = .ok inner → inner.data s .index legal n = .ok (.text (toString place)) n := by
    intro place element inner here entered
    have index := Context.index?_of_element settled h.focus_stored counts offered here entered
    exact inner.data_index index legal n
  refine ⟨fun place element inner here entered => ?_, fun exist source separator parsed => ?_⟩
  · exact resolve_reference known (numbered place element inner here entered)
  · have walked : seriesElements s c source {} false
        (Fragment.series source separator {} false [.reference label legal]).describe = .ok elements := by
      rw [seriesElements, parsed]
      simp only [offered]
      rfl
    refine resolve_series walked fun place element here => ?_
    obtain ⟨inner, entered⟩ := exist element (List.mem_of_getElem? here)
    have piece : resolveOne s (resolveUpTo s (s.depthBound - 1)) (.reference label legal) inner n =
        .ok (toString place) n := resolveOne_reference known (numbered place element inner here entered)
    have whole := resolveWith_cons piece resolveWith_nil
    rw [String.append_empty] at whole
    exact ⟨inner, entered, whole⟩

open Libraries

/-- A cause with a note below it and three variables in two blocks, without any owner. -/
def cellar : StoryModel where
  root := ⟨0⟩
  components := .ofList [
    (⟨0⟩, ⟨⟨0⟩, "Start", none, .storyPoint { children := [⟨2⟩, ⟨1⟩] }⟩),
    (⟨1⟩, ⟨⟨0⟩, "Opened", none, .scriptIt { role := .cause, codeBlocks := [⟨0⟩, ⟨1⟩], children := [⟨6⟩] }⟩),
    (⟨2⟩, ⟨⟨0⟩, "Asked", none, .askIt {}⟩), (⟨3⟩, ⟨⟨0⟩, "Door", none, .knowIt {}⟩),
    (⟨4⟩, ⟨⟨0⟩, "Chest", none, .knowIt {}⟩), (⟨5⟩, ⟨⟨0⟩, "Key", none, .knowIt {}⟩),
    (⟨6⟩, ⟨⟨0⟩, "Dark", none, .note⟩)]
  codeBlocks := .ofList [
    (⟨0⟩, { slot := "opened", parameters := [⟨4⟩] }),
    (⟨1⟩, { slot := "opened", parameters := [⟨3⟩, ⟨5⟩] })]

/-- The cause, entered from the whole script after the links are set. -/
def cellarCause : Context where
  focus := .component ⟨⟨1⟩, "Opened", some ⟨0⟩,
    .scriptIt { role := .cause, codeBlocks := [⟨0⟩, ⟨1⟩], children := [⟨6⟩] }⟩
  outer := [.file ⟨⟨0⟩, "Start", none, .storyPoint { children := [⟨2⟩, ⟨1⟩] }⟩]

/-- The parameters of both blocks count on from one block to the next. -/
theorem cellar_parameters_counted :
    let s : Setting :=
      ⟨cellar.rebuildOwners, { name := "Plain" }, ⟨"opened", none⟩, LegalPattern.defaultNaming⟩
    cellar.ListedOnce ∧ cellarCause.Reachable s ∧
    cellarCause.series s .parameters = .ok (componentElements [⟨4⟩, ⟨3⟩, ⟨5⟩]) ∧
    ∀ n, resolve s [.series "parameters" ", " {} false [.ref "index"]] cellarCause n = .ok "0, 1, 2" n := by
  intro s
  have once : cellar.ListedOnce := ⟨by decide, by decide, by decide⟩
  have started : Context.root s = .ok
      { focus := .file ⟨⟨0⟩, "Start", none, .storyPoint { children := [⟨2⟩, ⟨1⟩] }⟩ } := by cbv
  have entered : Context.enter s
      { focus := .file ⟨⟨0⟩, "Start", none, .storyPoint { children := [⟨2⟩, ⟨1⟩] }⟩ } (.component ⟨1⟩) =
        .ok cellarCause := by cbv
  have reachable : cellarCause.Reachable s := .enter (.root started) entered
  have offered : cellarCause.series s .parameters = .ok (componentElements [⟨4⟩, ⟨3⟩, ⟨5⟩]) := by cbv
  refine ⟨once, reachable, offered, fun n => ?_⟩
  have counts : SeriesKey.CountsIn cellarCause .parameters := by
    rintro b ⟨⟩
  have known : DataKey.parse? "index" = some .index := rfl
  obtain ⟨-, whole⟩ := places_count_elements once (.inl rfl) reachable counts offered known none n
  refine whole ?_ "parameters" ", " rfl
  intro element among
  have exist : ([⟨4⟩, ⟨3⟩, ⟨5⟩] : List ComponentId).all (fun x => (s.model.component? x).isSome) = true := by
    cbv
  obtain ⟨x, listed, rfl⟩ := List.mem_map.1 among
  obtain ⟨k, stored⟩ := Option.isSome_iff_exists.1 (List.all_eq_true.1 exist x listed)
  exact ⟨_, Context.enter_component stored⟩

end StoryLoom
