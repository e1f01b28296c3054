import StoryLoom.Document.Reader
import StoryLoom.Document.Story
import StoryLoom.Proofs.Story.Relinking

/-!
# Leftover — stored links that outlive setting the links anew

- `SameStructure`  : stories that differ in stored numbers, owners and parents only
- `ClaimedOnce`    : no object of a story is claimed by two others
- `LeftoversAgree` : stories that store the same owners for what nothing claims
- `Alike`          : stories with the same contents
- `leftover_owners_stay` : links set anew come from the structure, but for these owners

A parent that is stored is always forgotten. An owner that is stored is forgotten only where another one takes
its place. The order of tables does not matter, neither that in which they are stored nor that in which they
are read.
-/

namespace StoryLoom

/-- A component without its number and its owner. -/
def Component.unlinked (c : Component) : Component :=
  { c with id := ⟨0⟩, owner := none }

/-- A code block without its number and its owner. -/
def CodeBlock.unlinked (b : CodeBlock) : CodeBlock :=
  { b with id := ⟨0⟩, owner := none }

/-- A line without its number and its parent. -/
def DialogueLine.unlinked (l : DialogueLine) : DialogueLine :=
  { l with id := ⟨0⟩, parent := none }

namespace StoryModel

/-- Two stories differ in numbers, owners and parents that are stored in their objects, and in nothing else.
-/
structure SameStructure (m m' : StoryModel) : Prop where
  root : m.root = m'.root
  slots : ∀ name, m.slot? name = m'.slot? name
  components : ∀ x, (m.component? x).map Component.unlinked = (m'.component? x).map Component.unlinked
  codeBlocks : ∀ n, (m.codeBlock? n).map CodeBlock.unlinked = (m'.codeBlock? n).map CodeBlock.unlinked
  lines : ∀ x, (m.line? x).map DialogueLine.unlinked = (m'.line? x).map DialogueLine.unlinked

/-- Two stories have the same contents. -/
structure Alike (m m' : StoryModel) : Prop where
  root : m.root = m'.root
  slots : ∀ name, m.slot? name = m'.slot? name
  components : ∀ x, m.component? x = m'.component? x
  codeBlocks : ∀ n, m.codeBlock? n = m'.codeBlock? n
  lines : ∀ x, m.line? x = m'.line? x

/-- No component, block or line is claimed by two others. -/
structure ClaimedOnce (m : StoryModel) : Prop where
  component : ∀ x p q, m.Claims p x → m.Claims q x → p = q
  codeBlock : ∀ n p q, m.ListsBlock p n → m.ListsBlock q n → p = q
  line : ∀ x p q, m.HasReply p x → m.HasReply q x → p = q

/-- Two stories store the same owners for the components and blocks that nothing claims. -/
structure LeftoversAgree (m m' : StoryModel) : Prop where
  component : ∀ x k k', (∀ p, ¬ m.Claims p x) → m.component? x = some k → m'.component? x = some k' →
    k.owner = k'.owner
  codeBlock : ∀ n b b', (∀ p, ¬ m.ListsBlock p n) → m.codeBlock? n = some b →
    m'.codeBlock? n = some b' → b.owner = b'.owner

/-! ## One claim at most -/

section LastClaim

variable {α β : Type} [DecidableEq α] {claims claims' : List (α × β)} {x : α}

theorem lastClaim?_eq_none_iff : lastClaim? claims x = none ↔ ∀ p, (x, p) ∉ claims :=
  ⟨fun h _ => not_mem_of_lastClaim? h, lastClaim?_of_none⟩

/-- Where no two objects claim a third, the order of the claims does not matter. -/
theorem lastClaim?_congr (same : ∀ p, (x, p) ∈ claims ↔ (x, p) ∈ claims')
    (once : ∀ p q, (x, p) ∈ claims → (x, q) ∈ claims → p = q) :
    lastClaim? claims x = lastClaim? claims' x := by
  cases last : lastClaim? claims x with
  | none =>
    have unclaimed := lastClaim?_eq_none_iff.1 last
    exact (lastClaim?_of_none fun p among => unclaimed p ((same p).2 among)).symm
  | some p =>
    -- The other list has this claim too and no second one, so it is the last there as well.
    have claim := mem_of_lastClaim? last
    refine (lastClaim?_of_only ((same p).1 claim) ?_).symm
    intro q among
    exact once q p ((same q).2 among) claim

omit [DecidableEq α] in
/-- Claims that name every claimed object once. -/
theorem eq_of_claims_nodup (nodup : (claims.map Prod.fst).Nodup) {p q : β} (hp : (x, p) ∈ claims)
    (hq : (x, q) ∈ claims) : p = q :=
  congrArg Prod.snd (List.inj_on_of_nodup_map nodup hp hq rfl)

end LastClaim

/-- A story is claimed once where the lists, read in some order, name every object once. -/
theorem ClaimedOnce.of_nodup {m : StoryModel} (o : m.Order)
    (components : ((o.childClaims ++ o.variableClaims).map Prod.fst).Nodup)
    (codeBlocks : (o.blockClaims.map Prod.fst).Nodup) (lines : (o.replyClaims.map Prod.fst).Nodup) :
    m.ClaimedOnce where
  component _ _ _ hp hq :=
    eq_of_claims_nodup components (Order.mem_claims_iff.2 hp) (Order.mem_claims_iff.2 hq)
  codeBlock _ _ _ hp hq :=
    eq_of_claims_nodup codeBlocks (Order.mem_blockClaims_iff.2 hp) (Order.mem_blockClaims_iff.2 hq)
  line _ _ _ hp hq :=
    eq_of_claims_nodup lines (Order.mem_replyClaims_iff.2 hp) (Order.mem_replyClaims_iff.2 hq)

/-! ## One structure -/

/-- Tables that answer alike under the keys of both answer alike. -/
theorem map_get?_eq {κ α β : Type} [DecidableEq κ] {t t' : Table κ α} {f : α → β}
    (answers : ∀ k ∈ t.keys ++ t'.keys, (t.get? k).map f = (t'.get? k).map f) (k : κ) :
    (t.get? k).map f = (t'.get? k).map f := by
  by_cases among : k ∈ t.keys ++ t'.keys
  · exact answers k among
  · rw [List.mem_append, not_or] at among
    rw [Table.get?_eq_none_iff.2 among.1, Table.get?_eq_none_iff.2 among.2]

namespace SameStructure

variable {m m' : StoryModel}

/-- Having the same structure goes both ways. -/
theorem symm (h : m.SameStructure m') : m'.SameStructure m where
  root := h.root.symm
  slots name := (h.slots name).symm
  components x := (h.components x).symm
  codeBlocks n := (h.codeBlocks n).symm
  lines x := (h.lines x).symm

/-- An object that differs from another one in its links only. -/
theorem exists_of_map_eq {α : Type} {unlinked : α → α} {a a' : Option α} {k : α}
    (same : a.map unlinked = a'.map unlinked) (found : a = some k) :
    ∃ k', a' = some k' ∧ unlinked k' = unlinked k := by
  rw [found, Option.map_some] at same
  exact Option.map_eq_some_iff.1 same.symm

/-- A stored component is stored in both, with the same kind. -/
theorem component (h : m.SameStructure m') {x : ComponentId} {c : Component}
    (found : m.component? x = some c) : ∃ c', m'.component? x = some c' ∧ c'.kind = c.kind := by
  obtain ⟨c', hc', same⟩ := exists_of_map_eq (h.components x) found
  exact ⟨c', hc', (Component.mk.inj same).2.2.2⟩

theorem hasChild (h : m.SameStructure m') {p x : ComponentId} :
    m.HasChild p x → m'.HasChild p x := by
  rintro ⟨c, hc, child⟩
  obtain ⟨c', hc', kind⟩ := h.component hc
  refine ⟨c', hc', ?_⟩
  rwa [Component.childIds, kind]

theorem asks (h : m.SameStructure m') {p x : ComponentId} : m.Asks p x → m'.Asks p x := by
  rintro ⟨c, a, hc, branch, condition⟩
  obtain ⟨c', hc', kind⟩ := h.component hc
  exact ⟨c', a, hc', kind.trans branch, condition⟩

theorem listsBlock (h : m.SameStructure m') {p : ComponentId} {n : CodeBlockId} :
    m.ListsBlock p n → m'.ListsBlock p n := by
  rintro ⟨c, hc, lists⟩
  obtain ⟨c', hc', kind⟩ := h.component hc
  refine ⟨c', hc', ?_⟩
  rwa [Component.blockIds, Component.script?, kind]

/-- So the claims are the same. -/
theorem claims (h : m.SameStructure m') {p x : ComponentId} : m.Claims p x → m'.Claims p x := by
  rintro (child | asks | ⟨n, b, lists, hb, among⟩)
  · exact .inl (h.hasChild child)
  · exact .inr (.inl (h.asks asks))
  · -- A variable is claimed by the script that lists its block.
    obtain ⟨b', hb', same⟩ := exists_of_map_eq (h.codeBlocks n) hb
    have listed : b'.unlinked.variables = b.unlinked.variables := congrArg CodeBlock.variables same
    exact .inr (.inr ⟨n, b', h.listsBlock lists, hb', listed.symm ▸ among⟩)

theorem hasReply (h : m.SameStructure m') {p x : LineId} : m.HasReply p x → m'.HasReply p x := by
  rintro ⟨l, hl, reply⟩
  obtain ⟨l', hl', same⟩ := exists_of_map_eq (h.lines p) hl
  have listed : l'.unlinked.children = l.unlinked.children := congrArg DialogueLine.children same
  exact ⟨l', hl', listed.symm ▸ reply⟩

end SameStructure

/-! ## Setting the links of two stories anew -/

/-- Two objects that differ in their links only, with their links set anew: they are the same if they are
claimed, or if they had the same owner. -/
theorem map_link_eq_iff {α β : Type} (owner : α → Option β) (unlinked : α → α) (link : Option β → α → α)
    (relinked : ∀ o k, link o (unlinked k) = link o k) (linked : ∀ o k, owner (link o k) = o)
    {a a' : Option α} (same : a.map unlinked = a'.map unlinked) (claim : Option β) :
    a.map (fun k => link (claim.or (owner k)) k) = a'.map (fun k => link (claim.or (owner k)) k) ↔
      (claim = none → ∀ k k', a = some k → a' = some k' → owner k = owner k') := by
  constructor
  · rintro settled rfl k k' rfl rfl
    have owners := congrArg owner (Option.some.inj settled)
    rwa [linked, linked] at owners
  · intro agree
    cases a with
    | none => rw [Option.map_eq_none_iff.1 same.symm]
    | some k =>
      obtain ⟨k', rfl, unlinked_eq⟩ := SameStructure.exists_of_map_eq same rfl
      -- With one owner for both, what is left is the structure that they share.
      have owners : claim.or (owner k) = claim.or (owner k') := by
        cases claim with
        | none => exact agree rfl k k' rfl rfl
        | some o => rfl
      simp only [Option.map_some, owners, ← relinked _ k, ← relinked _ k', unlinked_eq]

namespace SameStructure

variable {m m' : StoryModel} (o : m.Order) (o' : m'.Order)

include o o' in
/-- A line has the parent that the structure gives it, or none. -/
theorem line?_rebuilt (h : m.SameStructure m') (once : m.ClaimedOnce) (x : LineId) :
    o.rebuilt.line? x = o'.rebuilt.line? x := by
  have claim : lastClaim? o.replyClaims x = lastClaim? o'.replyClaims x := by
    refine lastClaim?_congr (fun p => ?_) fun p q hp hq => ?_
    · rw [Order.mem_replyClaims_iff, Order.mem_replyClaims_iff]
      exact ⟨h.hasReply, h.symm.hasReply⟩
    · exact once.line x p q (Order.mem_replyClaims_iff.1 hp) (Order.mem_replyClaims_iff.1 hq)
  rw [Order.line?_rebuilt, Order.line?_rebuilt, claim]
  have settled := congrArg
    (Option.map fun l : DialogueLine => { l with id := x, parent := lastClaim? o'.replyClaims x }) (h.lines x)
  rwa [Option.map_map, Option.map_map] at settled

/-- A component is the same in both stories if it is claimed, or if both stored the same owner. -/
theorem component?_rebuilt_eq_iff (h : m.SameStructure m') (once : m.ClaimedOnce) (x : ComponentId) :
    o.rebuilt.component? x = o'.rebuilt.component? x ↔ ((∀ p, ¬ m.Claims p x) →
      ∀ k k', m.component? x = some k → m'.component? x = some k' → k.owner = k'.owner) := by
  have claim : lastClaim? (o.childClaims ++ o.variableClaims) x =
      lastClaim? (o'.childClaims ++ o'.variableClaims) x := by
    refine lastClaim?_congr (fun p => ?_) fun p q hp hq => ?_
    · rw [Order.mem_claims_iff, Order.mem_claims_iff]
      exact ⟨h.claims, h.symm.claims⟩
    · exact once.component x p q (Order.mem_claims_iff.1 hp) (Order.mem_claims_iff.1 hq)
  have unclaimed : lastClaim? (o.childClaims ++ o.variableClaims) x = none ↔ ∀ p, ¬ m.Claims p x := by
    simp only [lastClaim?_eq_none_iff, Order.mem_claims_iff]
  rw [Order.component?_rebuilt, Order.component?_rebuilt, ← claim, ← unclaimed]
  exact map_link_eq_iff Component.owner Component.unlinked (fun o k => { k with id := x, owner := o })
    (fun _ _ => rfl) (fun _ _ => rfl) (h.components x) _

/-- A block is the same in both stories if it is listed, or if both stored the same owner. -/
theorem codeBlock?_rebuilt_eq_iff (h : m.SameStructure m') (once : m.ClaimedOnce) (n : CodeBlockId) :
    o.rebuilt.codeBlock? n = o'.rebuilt.codeBlock? n ↔ ((∀ p, ¬ m.ListsBlock p n) →
      ∀ b b', m.codeBlock? n = some b → m'.codeBlock? n = some b' → b.owner = b'.owner) := by
  have claim : lastClaim? o.blockClaims n = lastClaim? o'.blockClaims n := by
    refine lastClaim?_congr (fun p => ?_) fun p q hp hq => ?_
    · rw [Order.mem_blockClaims_iff, Order.mem_blockClaims_iff]
      exact ⟨h.listsBlock, h.symm.listsBlock⟩
    · exact once.codeBlock n p q (Order.mem_blockClaims_iff.1 hp) (Order.mem_blockClaims_iff.1 hq)
  have unclaimed : lastClaim? o.blockClaims n = none ↔ ∀ p, ¬ m.ListsBlock p n := by
    simp only [lastClaim?_eq_none_iff, Order.mem_blockClaims_iff]
  rw [Order.codeBlock?_rebuilt, Order.codeBlock?_rebuilt, ← claim, ← unclaimed]
  exact map_link_eq_iff CodeBlock.owner CodeBlock.unlinked (fun o b => { b with id := n, owner := o })
    (fun _ _ => rfl) (fun _ _ => rfl) (h.codeBlocks n) _

/-- Read in any two orders, stories of one structure become alike just if the owners agree that they stored
for what nothing claims. -/
theorem alike_rebuilt_iff (h : m.SameStructure m') (once : m.ClaimedOnce) :
    o.rebuilt.Alike o'.rebuilt ↔ m.LeftoversAgree m' := by
  constructor
  · intro alike
    refine ⟨fun x k k' unclaimed hk hk' => ?_, fun n b b' unlisted hb hb' => ?_⟩
    · exact (h.component?_rebuilt_eq_iff o o' once x).1 (alike.components x) unclaimed k k' hk hk'
    · exact (h.codeBlock?_rebuilt_eq_iff o o' once n).1 (alike.codeBlocks n) unlisted b b' hb hb'
  · intro agree
    refine ⟨h.root, h.slots, fun x => ?_, fun n => ?_, h.line?_rebuilt o o' once⟩
    · refine (h.component?_rebuilt_eq_iff o o' once x).2 fun unclaimed k k' => ?_
      exact agree.component x k k' unclaimed
    · refine (h.codeBlock?_rebuilt_eq_iff o o' once n).2 fun unlisted b b' => ?_
      exact agree.codeBlock n b b' unlisted

end SameStructure

/-! ## What stays and what does not -/

namespace Order

variable {m : StoryModel} (o : m.Order)

/-- Rebuilding the owners keeps the structure. -/
theorem sameStructure : m.SameStructure o.rebuilt where
  root := rfl
  slots _ := rfl
  components x := by
    rw [o.component?_rebuilt, Option.map_map]
    rfl
  codeBlocks n := by
    rw [o.codeBlock?_rebuilt, Option.map_map]
    rfl
  lines x := by
    rw [o.line?_rebuilt, Option.map_map]
    rfl

/-- A component that nothing claims keeps the owner that it stored. -/
theorem component?_rebuilt_of_unclaimed {x : ComponentId} {k : Component} (unclaimed : ∀ p, ¬ m.Claims p x)
    (found : m.component? x = some k) : o.rebuilt.component? x = some { k with id := x } := by
  have none_last : lastClaim? (o.childClaims ++ o.variableClaims) x = none :=
    lastClaim?_of_none fun p among => unclaimed p (mem_claims_iff.1 among)
  rw [o.component?_rebuilt, found, none_last]
  rfl

/-- A block that nothing lists keeps the owner that it stored. -/
theorem codeBlock?_rebuilt_of_unlisted {n : CodeBlockId} {b : CodeBlock}
    (unlisted : ∀ p, ¬ m.ListsBlock p n) (found : m.codeBlock? n = some b) :
    o.rebuilt.codeBlock? n = some { b with id := n } := by
  have none_last : lastClaim? o.blockClaims n = none :=
    lastClaim?_of_none fun p among => unlisted p (mem_blockClaims_iff.1 among)
  rw [o.codeBlock?_rebuilt, found, none_last]
  rfl

end Order

section Read

variable [DocumentLibrary]

/-- The story of a document has its links set anew. -/
theorem read_eq_ok {text : String} {m : StoryModel} (h : read text = .ok m) :
    ∃ document : StoryModel, m = document.rebuildOwners := by
  unfold read at h
  split at h
  · cases h
  · next document _ =>
    refine ⟨document, ?_⟩
    -- Whether the root exists is checked afterwards, and changes nothing.
    cases found : document.rebuildOwners.component document.rebuildOwners.root with
    | error e =>
      simp only [found] at h
      cases h
    | ok root =>
      simp only [found] at h
      cases h
      rfl

/-- A line of a document that no line lists has no parent. -/
theorem parent_eq_none_of_read {text : String} {m : StoryModel} (h : read text = .ok m) {x : LineId}
    {l : DialogueLine} (found : m.line? x = some l) (unlisted : ∀ p, ¬ m.HasReply p x) : l.parent = none := by
  obtain ⟨document, rfl⟩ := read_eq_ok h
  rw [rebuildOwners_eq_rebuilt] at found unlisted
  -- The lines list in the document what they list in the story made from it.
  refine document.scattered.relinked.opening x l found fun p reply => ?_
  exact unlisted p (document.scattered.sameStructure.hasReply reply)

/-- Of two stories with one structure that is claimed once, setting the links anew makes the same just if they
store the same owners for what nothing claims. All else is the same in any case; these owners stay as they were
stored. The same holds in whatever orders the tables are read. No line of a document keeps a parent that does
not list it. -/
theorem leftover_owners_stay (m m' : StoryModel) (same : m.SameStructure m') (once : m.ClaimedOnce) :
    (m.rebuildOwners.Alike m'.rebuildOwners ↔ m.LeftoversAgree m') ∧
      (∀ x, (∃ p, m.Claims p x) → m.rebuildOwners.component? x = m'.rebuildOwners.component? x) ∧
      (∀ n, (∃ p, m.ListsBlock p n) → m.rebuildOwners.codeBlock? n = m'.rebuildOwners.codeBlock? n) ∧
      (∀ x, m.rebuildOwners.line? x = m'.rebuildOwners.line? x) ∧
      (∀ x k, (∀ p, ¬ m.Claims p x) → m.component? x = some k →
        m.rebuildOwners.component? x = some { k with id := x }) ∧
      (∀ n b, (∀ p, ¬ m.ListsBlock p n) → m.codeBlock? n = some b →
        m.rebuildOwners.codeBlock? n = some { b with id := n }) ∧
      (∀ (o : m.Order) (o' : m'.Order), o.rebuilt.Alike o'.rebuilt ↔ m.LeftoversAgree m') ∧
      ∀ text story, read text = .ok story → ∀ x l, story.line? x = some l →
        (∀ p, ¬ story.HasReply p x) → l.parent = none := by
  -- All of it holds for any orders of the two tables, and these are two of them.
  rw [m.rebuildOwners_eq_rebuilt, m'.rebuildOwners_eq_rebuilt]
  refine ⟨same.alike_rebuilt_iff _ _ once, ?_, ?_, same.line?_rebuilt _ _ once, ?_, ?_,
    fun o o' => same.alike_rebuilt_iff o o' once, fun text story h x l => parent_eq_none_of_read h⟩
  · rintro x ⟨p, claim⟩
    exact (same.component?_rebuilt_eq_iff _ _ once x).2 fun unclaimed => absurd claim (unclaimed p)
  · rintro n ⟨p, lists⟩
    exact (same.codeBlock?_rebuilt_eq_iff _ _ once n).2 fun unlisted => absurd lists (unlisted p)
  · intro x k unclaimed found
    exact m.scattered.component?_rebuilt_of_unclaimed unclaimed found
  · intro n b unlisted found
    exact m.scattered.codeBlock?_rebuilt_of_unlisted unlisted found

end Read

open Libraries

/-- The cause on a door once more, with other numbers, owners and parents, and stored in another order. -/
def restored : StoryModel where
  root := ⟨0⟩
  components := Table.ofList
    [(⟨2⟩, ⟨⟨5⟩, "Door", some ⟨0⟩, .knowIt {}⟩),
      (⟨1⟩, ⟨⟨1⟩, "Opened", none, .scriptIt { role := .cause, codeBlocks := [⟨0⟩, ⟨5⟩] }⟩),
      (⟨0⟩, ⟨⟨0⟩, "Start", some ⟨2⟩, .storyPoint { children := [⟨1⟩] }⟩)]
  codeBlocks := Table.ofList [(⟨0⟩, { slot := "opened", parameters := [⟨2⟩, ⟨6⟩] })]
  lines := Table.ofList [(⟨0⟩, { text := "Who is there?", speaker := .npc })]

/-- Only the root is claimed by nothing, and both stories store one owner for it. -/
theorem stale_and_restored_alike :
    stale.SameStructure restored ∧ stale.ClaimedOnce ∧ stale.rebuildOwners.Alike restored.rebuildOwners := by
  have blocks : ∀ n ∈ stale.codeBlocks.keys ++ restored.codeBlocks.keys,
      (stale.codeBlock? n).map CodeBlock.unlinked = (restored.codeBlock? n).map CodeBlock.unlinked := by
    have keys : ∀ n ∈ stale.codeBlocks.keys ++ restored.codeBlocks.keys, n = ⟨0⟩ := by decide
    intro n among
    rw [keys n among]
    rfl
  have same : stale.SameStructure restored :=
    ⟨rfl, fun _ => rfl, map_get?_eq (by decide), map_get?_eq blocks, map_get?_eq (by decide)⟩
  let order : stale.Order := ⟨stale.components.keys, stale.lines.keys, .refl _, .refl _⟩
  have once : stale.ClaimedOnce := .of_nodup order (by decide) (by decide) (by decide)
  have cause : stale.Claims ⟨0⟩ ⟨1⟩ := (Order.mem_claims_iff (o := order)).1 (by decide)
  have door : stale.Claims ⟨1⟩ ⟨2⟩ := (Order.mem_claims_iff (o := order)).1 (by decide)
  have owners : ∀ e ∈ stale.components.entries, ∀ e' ∈ restored.components.entries, e.1 = e'.1 →
      e.2.owner = e'.2.owner ∨ e.1 = ⟨1⟩ ∨ e.1 = ⟨2⟩ := by decide
  have block : ∀ n ∈ stale.codeBlocks.keys, n = ⟨0⟩ := by decide
  have agree : stale.LeftoversAgree restored := by
    refine ⟨fun x k k' unclaimed hk hk' => ?_, fun n b b' unlisted hb _ => ?_⟩
    · have stored := Table.get?_eq_some_iff.1 hk
      rcases owners _ stored _ (Table.get?_eq_some_iff.1 hk') rfl with same_owner | rfl | rfl
      · exact same_owner
      · exact absurd cause (unclaimed ⟨0⟩)
      · exact absurd door (unclaimed ⟨1⟩)
    · obtain rfl := block n (List.mem_map_of_mem (f := Prod.fst) (Table.get?_eq_some_iff.1 hb))
      exact absurd ⟨_, rfl, by decide⟩ (unlisted ⟨1⟩)
  exact ⟨same, once, (leftover_owners_stay stale restored same once).1.2 agree⟩

/-- A flag, a block and a line that nothing lists, with an owner and a parent. -/
def unlisted (owner : Option ComponentId) (parent : Option LineId) : StoryModel where
  root := ⟨0⟩
  components := Table.ofList
    [(⟨0⟩, ⟨⟨0⟩, "Start", none, .storyPoint {}⟩), (⟨1⟩, ⟨⟨1⟩, "Flag", owner, .knowIt {}⟩)]
  codeBlocks := Table.ofList [(⟨0⟩, { owner := owner, slot := "opened" })]
  lines := Table.ofList [(⟨0⟩, { text := "Who is there?", speaker := .npc, parent := parent })]

/-- No list of this story names anything. -/
theorem unclaimed_in_unlisted (owner : Option ComponentId) (parent : Option LineId) :
    (∀ p x, ¬ (unlisted owner parent).Claims p x) ∧ (∀ p n, ¬ (unlisted owner parent).ListsBlock p n) ∧
      ∀ p x, ¬ (unlisted owner parent).HasReply p x := by
  let order : (unlisted owner parent).Order := ⟨[⟨0⟩, ⟨1⟩], [⟨0⟩], .refl _, .refl _⟩
  have onComponents : order.childClaims ++ order.variableClaims = [] := rfl
  have onBlocks : order.blockClaims = [] := rfl
  have onLines : order.replyClaims = [] := rfl
  refine ⟨fun p x claim => ?_, fun p n lists => ?_, fun p x reply => ?_⟩
  · have among := (Order.mem_claims_iff (o := order)).2 claim
    rw [onComponents] at among
    cases among
  · have among := (Order.mem_blockClaims_iff (o := order)).2 lists
    rw [onBlocks] at among
    cases among
  · have among := (Order.mem_replyClaims_iff (o := order)).2 reply
    rw [onLines] at among
    cases among

/-- Still the flag and the block keep the owner that is stored, so that two stories which differ in such owners
only do not become the same. The line forgets its parent. -/
theorem unlisted_owner_kept :
    let m := unlisted none none
    let m' := unlisted (some ⟨0⟩) (some ⟨5⟩)
    m.SameStructure m' ∧ m.ClaimedOnce ∧ ¬ m.rebuildOwners.Alike m'.rebuildOwners ∧
      (∀ p, ¬ m'.Claims p ⟨1⟩) ∧ (m'.rebuildOwners.component? ⟨1⟩).bind Component.owner = some ⟨0⟩ ∧
      (∀ p, ¬ m'.ListsBlock p ⟨0⟩) ∧
      (m'.rebuildOwners.codeBlock? ⟨0⟩).bind CodeBlock.owner = some ⟨0⟩ ∧
      (∀ p, ¬ m'.HasReply p ⟨0⟩) ∧
      (m'.rebuildOwners.line? ⟨0⟩).bind DialogueLine.parent = none := by
  intro m m'
  obtain ⟨unclaimed, unlisted_m, unanswered⟩ := unclaimed_in_unlisted none none
  obtain ⟨unclaimed', unlisted', unanswered'⟩ := unclaimed_in_unlisted (some ⟨0⟩) (some ⟨5⟩)
  have same : m.SameStructure m' := by
    have block : ∀ n ∈ m.codeBlocks.keys ++ m'.codeBlocks.keys, n = ⟨0⟩ := by decide
    refine ⟨rfl, fun _ => rfl, map_get?_eq (by decide), map_get?_eq fun n among => ?_,
      map_get?_eq (by decide)⟩
    rw [block n among]
    rfl
  have once : m.ClaimedOnce :=
    ⟨fun x p _ claim => absurd claim (unclaimed p x), fun n p _ lists => absurd lists (unlisted_m p n),
      fun x p _ reply => absurd reply (unanswered p x)⟩
  -- Nothing claims the flag or the block, so both keep the owner that they were stored with.
  have flag : m'.rebuildOwners.component? ⟨1⟩ = some ⟨⟨1⟩, "Flag", some ⟨0⟩, .knowIt {}⟩ := by
    rw [rebuildOwners_eq_rebuilt]
    exact m'.scattered.component?_rebuilt_of_unclaimed (fun p => unclaimed' p ⟨1⟩) rfl
  have block : m'.rebuildOwners.codeBlock? ⟨0⟩ = some { owner := some ⟨0⟩, slot := "opened" } := by
    rw [rebuildOwners_eq_rebuilt]
    exact m'.scattered.codeBlock?_rebuilt_of_unlisted (fun p => unlisted' p ⟨0⟩) rfl
  refine ⟨same, once, ?_, fun p => unclaimed' p ⟨1⟩, by rw [flag]; rfl, fun p => unlisted' p ⟨0⟩,
    by rw [block]; rfl, fun p => unanswered' p ⟨0⟩, ?_⟩
  · intro alike
    rw [rebuildOwners_eq_rebuilt, rebuildOwners_eq_rebuilt] at alike
    have owners := ((same.alike_rebuilt_iff _ _ once).1 alike).component ⟨1⟩ _ _
      (fun p => unclaimed p ⟨1⟩) rfl rfl
    cases owners
  · cases line : m'.rebuildOwners.line? ⟨0⟩ with
    | none => rfl
    | some l =>
      rw [rebuildOwners_eq_rebuilt] at line
      exact m'.scattered.relinked.opening ⟨0⟩ l line fun p => unanswered' p ⟨0⟩

end StoryModel
end StoryLoom
