import StoryLoom.Proofs.Story.Linked
import StoryLoom.Story.Ownership

/-!
# Claims — who lays claim to what in a story

- `Asks`, `Claims` : a branch and its condition, and all claims of components on components
- `lastClaim?_of_only` : what one object alone claims belongs to it
- `listings`       : what the values of a table list, read in some order
- `Order`          : an order in which the tables of a story are read, with the claims in it
- `scattered`      : the order in which the links of a story are settled
- `mem_claims_iff`, `mem_blockClaims_iff`, `mem_replyClaims_iff` : who claims what

Who claims what does not depend on the order. The order settles only who has what several others claim.
-/

namespace StoryLoom
namespace StoryModel

variable {m : StoryModel}

def Asks (m : StoryModel) (branch condition : ComponentId) : Prop :=
  ∃ k a, m.component? branch = some k ∧ k.kind = .askIt a ∧ a.condition = some condition

/-- A component lists another one, has it as its condition, or lists a block with it as a variable. -/
def Claims (m : StoryModel) (p x : ComponentId) : Prop :=
  m.HasChild p x ∨ m.Asks p x ∨
    ∃ n b, m.ListsBlock p n ∧ m.codeBlock? n = some b ∧ x ∈ b.variables

/-! ## The last claim -/

section LastClaim

variable {α β : Type} [DecidableEq α] {claims : List (α × β)} {x : α} {o : β}

/-- The owner found made a claim. -/
theorem mem_of_lastClaim? (h : lastClaim? claims x = some o) : (x, o) ∈ claims := by
  obtain ⟨⟨y, o'⟩, last, rfl⟩ := Option.map_eq_some_iff.1 h
  have there : (y, o') ∈ claims.filter (fun p => p.1 = x) := List.mem_of_getLast? last
  obtain ⟨among, same⟩ := List.mem_filter.1 there
  obtain rfl : y = x := of_decide_eq_true same
  exact among

/-- Where none is found none was made. -/
theorem not_mem_of_lastClaim? (h : lastClaim? claims x = none) : (x, o) ∉ claims := by
  intro among
  have there : (x, o) ∈ claims.filter (fun p => p.1 = x) :=
    List.mem_filter.2 ⟨among, decide_eq_true rfl⟩
  have nothing : claims.filter (fun p => p.1 = x) = [] :=
    List.getLast?_eq_none_iff.1 (Option.map_eq_none_iff.1 h)
  rw [nothing] at there
  cases there

/-- Where one object claims another and no other does, it has it. -/
theorem lastClaim?_of_only (claim : (x, o) ∈ claims) (only : ∀ p, (x, p) ∈ claims → p = o) :
    lastClaim? claims x = some o := by
  cases last : lastClaim? claims x with
  | none => exact absurd claim (not_mem_of_lastClaim? last)
  | some p => rw [only p (mem_of_lastClaim? last)]

theorem lastClaim?_of_none (unclaimed : ∀ p, (x, p) ∉ claims) : lastClaim? claims x = none := by
  cases last : lastClaim? claims x with
  | none => rfl
  | some p => exact absurd (mem_of_lastClaim? last) (unclaimed p)

end LastClaim

/-! ## Reading tables in an order -/

section Listings

variable {κ α β : Type} [DecidableEq κ] {t : Table κ α} {keys : List κ} {f : α → List β} {k : κ} {x : β}

/-- What the values of a table list, with the keys that list it; the keys are read in an order. -/
def listings (t : Table κ α) (keys : List κ) (f : α → List β) : List (β × κ) :=
  keys.flatMap fun k => ((t.get? k).elim [] f).map (·, k)

/-- In whatever order the table is read, it holds the same claims. -/
theorem mem_listings_iff (all : keys.Perm t.keys) :
    (x, k) ∈ listings t keys f ↔ ∃ a, t.get? k = some a ∧ x ∈ f a := by
  simp only [listings, List.mem_flatMap, List.mem_map, Prod.mk.injEq]
  constructor
  · rintro ⟨k', -, y, hy, rfl, rfl⟩
    cases stored : t.get? k' with
    | none =>
      rw [stored] at hy
      cases hy
    | some a =>
      rw [stored] at hy
      exact ⟨a, rfl, hy⟩
  · rintro ⟨a, stored, hx⟩
    refine ⟨k, all.mem_iff.2 ?_, x, ?_, rfl, rfl⟩
    · exact List.mem_map_of_mem (f := Prod.fst) (Table.get?_eq_some_iff.1 stored)
    · rw [stored]
      exact hx

/-- Entries that are read say the same as their keys. -/
theorem flatMap_entries_eq_listings {entries : List (κ × α)} (stored : ∀ e ∈ entries, e ∈ t.entries) :
    (entries.flatMap fun e => (f e.2).map (·, e.1)) = listings t (entries.map Prod.fst) f := by
  rw [listings, List.flatMap_map]
  apply List.flatMap_congr
  intro e he
  rw [Table.get?_eq_some_iff.2 (stored e he)]
  rfl

/-- A change of the values that keeps what they list keeps the listings. -/
theorem listings_mapValues {g : κ → α → α} (kept : ∀ k a, f (g k a) = f a) :
    listings (t.mapValues g) keys f = listings t keys f := by
  rw [listings, listings]
  apply List.flatMap_congr
  intro k _
  rw [Table.get?_mapValues]
  cases t.get? k with
  | none => rfl
  | some a => exact congrArg (List.map (·, k)) (kept k a)

end Listings

/-- A component claims its children, and an AskIt its condition. -/
theorem mem_claims {c : Component} {x : ComponentId} :
    x ∈ claims c ↔ x ∈ c.childIds ∨ ∃ a, c.kind = .askIt a ∧ a.condition = some x := by
  obtain ⟨id, text, owner, kind⟩ := c
  cases kind <;> simp [claims]

/-- An order in which the tables of a story are read. -/
@[ext]
structure Order (m : StoryModel) where
  components : List ComponentId
  lines : List LineId
  components_perm : components.Perm m.components.keys
  lines_perm : lines.Perm m.lines.keys

namespace Order

def childClaims (o : m.Order) : List (ComponentId × ComponentId) :=
  listings m.components o.components claims

def blockClaims (o : m.Order) : List (CodeBlockId × ComponentId) :=
  listings m.components o.components Component.blockIds

def variableClaims (o : m.Order) : List (ComponentId × ComponentId) :=
  o.blockClaims.flatMap fun claim =>
    ((m.codeBlock? claim.1).elim [] CodeBlock.variables).map (·, claim.2)

def replyClaims (o : m.Order) : List (LineId × LineId) :=
  listings m.lines o.lines DialogueLine.children

variable {o : m.Order} {p x : ComponentId} {n : CodeBlockId} {l r : LineId}

/-- Blocks are claimed by the scripts that list them. -/
theorem mem_blockClaims_iff : (n, p) ∈ o.blockClaims ↔ m.ListsBlock p n :=
  mem_listings_iff o.components_perm

/-- Lines by the lines they answer. -/
theorem mem_replyClaims_iff : (r, l) ∈ o.replyClaims ↔ m.HasReply l r :=
  mem_listings_iff o.lines_perm

/-- Components by their parents and by what asks them. -/
theorem mem_childClaims_iff : (x, p) ∈ o.childClaims ↔ m.HasChild p x ∨ m.Asks p x := by
  rw [childClaims, mem_listings_iff o.components_perm]
  simp only [mem_claims, HasChild, Asks]
  constructor
  · rintro ⟨c, hc, child | ⟨a, branch, condition⟩⟩
    · exact .inl ⟨c, hc, child⟩
    · exact .inr ⟨c, a, hc, branch, condition⟩
  · rintro (⟨c, hc, child⟩ | ⟨c, a, hc, branch, condition⟩)
    · exact ⟨c, hc, .inl child⟩
    · exact ⟨c, hc, .inr ⟨a, branch, condition⟩⟩

/-- Variables by the scripts of their blocks. -/
theorem mem_variableClaims_iff : (x, p) ∈ o.variableClaims ↔
    ∃ n b, m.ListsBlock p n ∧ m.codeBlock? n = some b ∧ x ∈ b.variables := by
  simp only [variableClaims, List.mem_flatMap, List.mem_map, Prod.mk.injEq]
  constructor
  · rintro ⟨⟨n, q⟩, claim, y, hy, rfl, rfl⟩
    cases hb : m.codeBlock? n with
    | none =>
      rw [hb] at hy
      cases hy
    | some b =>
      rw [hb] at hy
      exact ⟨n, b, mem_blockClaims_iff.1 claim, hb, hy⟩
  · rintro ⟨n, b, lists, hb, hx⟩
    refine ⟨(n, p), mem_blockClaims_iff.2 lists, x, ?_, rfl, rfl⟩
    rw [hb]
    exact hx

/-- Together these are the claims of the story. -/
theorem mem_claims_iff : (x, p) ∈ o.childClaims ++ o.variableClaims ↔ m.Claims p x := by
  rw [List.mem_append, mem_childClaims_iff, mem_variableClaims_iff, or_assoc]
  rfl

end Order

/-! ## The order by seats -/

/-- The order in which the links are settled. -/
def scattered (m : StoryModel) : m.Order where
  components := m.claimants.map Prod.fst
  lines := (Scatter.scatter (fun p => p.1.number) m.lines.entries).map Prod.fst
  components_perm := (Scatter.scatter_perm _ _).map Prod.fst
  lines_perm := (Scatter.scatter_perm _ _).map Prod.fst

theorem childClaims_eq (m : StoryModel) : m.childClaims = m.scattered.childClaims :=
  flatMap_entries_eq_listings fun _ => (Scatter.scatter_perm _ _).mem_iff.1

theorem blockClaims_eq (m : StoryModel) : m.blockClaims = m.scattered.blockClaims := by
  -- Only scripts list code blocks.
  have listed : m.blockClaims = m.claimants.flatMap fun p => p.2.blockIds.map (·, p.1) := by
    refine congrArg (fun f => m.claimants.flatMap f) (funext ?_)
    rintro ⟨q, id, text, owner, kind⟩
    cases kind <;> rfl
  rw [listed]
  exact flatMap_entries_eq_listings fun _ => (Scatter.scatter_perm _ _).mem_iff.1

/-- The claims of the order in which the story itself is read. -/
theorem variableClaims_eq (m : StoryModel) : m.variableClaims = m.scattered.variableClaims := by
  rw [variableClaims, Order.variableClaims, blockClaims_eq]
  apply List.flatMap_congr
  intro claim _
  cases m.codeBlock? claim.1 <;> rfl

theorem replyClaims_eq (m : StoryModel) : m.replyClaims = m.scattered.replyClaims :=
  flatMap_entries_eq_listings fun _ => (Scatter.scatter_perm _ _).mem_iff.1

end StoryModel
end StoryLoom
