import StoryLoom.Proofs.Graph.Reachability

/-!
# Preorder — the depth-first walk as a recursion

- `preorderFrom`           : nodes one after the other, each followed by what is new below it
- `depthFirstFrom_congr`   : a walk asks only whether what it can reach was seen
- `depthFirstFrom_append`  : what comes first is walked to its end before the rest
- `depthFirstFrom_eq_preorderFrom` : so the walk over a stack is the recursion
- `TreeFrom`               : the links below a node form a tree
- `TreeFrom.depthFirst_eq` : there, the walk is the node followed by the walks from its successors

The stack holds nodes again that were met before, and the recursion hands what was seen from one successor to
the next. Both list a node when they come to it for the first time.
-/

namespace StoryLoom
namespace Graph
namespace Links

variable {α : Type}

open Relation (ReflTransGen TransGen)

section Recursion

variable [DecidableEq α]

/-! ## The recursion -/

/-- Nodes one after the other, those seen left out, each followed by what is new below it. What is listed
below a node is seen when the next one is taken up. -/
def preorderFrom (g : Links α) (nodes seen : List α) : List α :=
  match nodes with
  | [] => []
  | a :: rest =>
    if _h : a ∈ seen then g.preorderFrom rest seen
    else
      let below := g.preorderFrom (g.next a) (a :: seen)
      a :: (below ++ g.preorderFrom rest (below ++ a :: seen))
termination_by (g.unseen seen, nodes.length)
decreasing_by
  · exact g.passing_decreases (fun _ known => known) (Nat.lt_succ_self _)
  · exact g.first_visit_decreases _h fun none => none ▸ Nat.zero_le _
  · exact g.passing_decreases
      (fun b known => List.mem_append_right _ (List.mem_cons_of_mem a known)) (Nat.lt_succ_self _)

def preorder (g : Links α) (start : α) : List α :=
  g.preorderFrom [start] []

/-! ## The walk over a stack -/

/-- A walk asks only whether what it can reach was seen. -/
theorem depthFirstFrom_congr (g : Links α) {stack seen seen' : List α}
    (agree : ∀ s ∈ stack, ∀ a, ReflTransGen g.Step s a → (a ∈ seen ↔ a ∈ seen')) :
    g.depthFirstFrom stack seen = g.depthFirstFrom stack seen' := by
  fun_induction depthFirstFrom g stack seen generalizing seen' with
  | case1 seen => rw [depthFirstFrom_nil]
  | case2 seen s rest known ih =>
    have known' : s ∈ seen' := (agree s List.mem_cons_self s .refl).1 known
    rw [depthFirstFrom_seen g known']
    exact ih fun t ht => agree t (List.mem_cons_of_mem s ht)
  | case3 seen s rest new ih =>
    have new' : s ∉ seen' := fun known => new ((agree s List.mem_cons_self s .refl).2 known)
    rw [depthFirstFrom_new g new']
    congr 1
    apply ih
    intro t ht a path
    -- What is below the new node can be reached from it.
    have among : a ∈ seen ↔ a ∈ seen' := by
      rcases List.mem_append.1 ht with below | later
      · exact agree s List.mem_cons_self a (path.head below)
      · exact agree t (List.mem_cons_of_mem s later) a path
    rw [List.mem_cons, List.mem_cons, among]

/-- What comes first on the stack is walked to its end before the rest. -/
theorem depthFirstFrom_append (g : Links α) (nodes rest seen : List α) :
    g.depthFirstFrom (nodes ++ rest) seen =
      g.depthFirstFrom nodes seen ++ g.depthFirstFrom rest (g.depthFirstFrom nodes seen ++ seen) := by
  fun_induction depthFirstFrom g nodes seen with
  | case1 seen => rfl
  | case2 seen s later known ih => rw [List.cons_append, depthFirstFrom_seen g known, ih]
  | case3 seen s later new ih =>
    rw [List.cons_append, depthFirstFrom_new g new, ← List.append_assoc, ih, List.cons_append]
    -- The new node is seen before what is listed below it here, and after it there.
    congr 2
    apply g.depthFirstFrom_congr
    intro t _ a _
    simp only [List.mem_append, List.mem_cons, List.cons_append]
    exact or_left_comm

/-- The walk over a stack is the recursion. -/
theorem depthFirstFrom_eq_preorderFrom (g : Links α) (nodes seen : List α) :
    g.depthFirstFrom nodes seen = g.preorderFrom nodes seen := by
  fun_induction preorderFrom g nodes seen with
  | case1 seen => rw [depthFirstFrom_nil]
  | case2 seen s rest known ih => rw [depthFirstFrom_seen g known, ih]
  | case3 seen s rest new below ihBelow ihRest =>
    rw [depthFirstFrom_new g new, depthFirstFrom_append, ihBelow, ihRest]

/-- The walk with a stack lists what the recursion lists. -/
theorem depthFirst_eq_preorder (g : Links α) (start : α) : g.depthFirst start = g.preorder start :=
  g.depthFirstFrom_eq_preorderFrom [start] []

/-- Nodes below which nothing is shared, and nothing seen, are walked each for itself. -/
theorem depthFirstFrom_eq_flatMap (g : Links α) {nodes seen : List α}
    (apart : nodes.Pairwise fun b c => ∀ a, ReflTransGen g.Step b a → ¬ ReflTransGen g.Step c a)
    (new : ∀ b ∈ nodes, ∀ a, ReflTransGen g.Step b a → a ∉ seen) :
    g.depthFirstFrom nodes seen = nodes.flatMap g.depthFirst := by
  -- What is listed for the first node adds nothing that the others can reach.
  induction nodes generalizing seen with
  | nil => rw [depthFirstFrom_nil, List.flatMap_nil]
  | cons b rest ih =>
    rcases List.pairwise_cons.1 apart with ⟨others, later⟩
    have first : g.depthFirstFrom [b] seen = g.depthFirst b := by
      apply g.depthFirstFrom_congr
      intro s hs a path
      rw [List.mem_singleton.1 hs] at path
      exact iff_of_false (new b List.mem_cons_self a path) List.not_mem_nil
    have rest_eq : g.depthFirstFrom rest (g.depthFirst b ++ seen) = rest.flatMap g.depthFirst := by
      apply ih later
      intro c hc a path known
      rcases List.mem_append.1 known with below | known
      · exact others c hc a (mem_depthFirst_iff.1 below) path
      · exact new c (List.mem_cons_of_mem b hc) a path known
    calc g.depthFirstFrom (b :: rest) seen
        = g.depthFirstFrom ([b] ++ rest) seen := rfl
      _ = g.depthFirst b ++ g.depthFirstFrom rest (g.depthFirst b ++ seen) := by
          rw [depthFirstFrom_append, first]
      _ = (b :: rest).flatMap g.depthFirst := by rw [rest_eq, List.flatMap_cons]

end Recursion

/-! ## Trees -/

/-- The links below a node form a tree: none leads back to it, and every other node is listed once. -/
structure TreeFrom (g : Links α) (start : α) : Prop where
  root : ∀ a, ReflTransGen g.Step start a → ¬ g.Step a start
  once : ∀ a, ReflTransGen g.Step start a → (g.next a).Nodup
  parent : ∀ a b x, ReflTransGen g.Step start a → ReflTransGen g.Step start b →
    g.Step a x → g.Step b x → a = b

namespace TreeFrom

variable {g : Links α} {start a b c : α}

/-- In a tree nothing leads back to the start. -/
theorem not_reaches_start (tree : g.TreeFrom start) (step : g.Step start b) :
    ¬ ReflTransGen g.Step b start := by
  intro back
  have around : TransGen g.Step start start := TransGen.head' step back
  rcases TransGen.tail'_iff.1 around with ⟨p, path, last⟩
  exact tree.root p path last

/-- No successor of the start is below another one. -/
theorem not_reaches_sibling (tree : g.TreeFrom start) (hb : g.Step start b) (hc : g.Step start c)
    (other : b ≠ c) : ¬ ReflTransGen g.Step b c := by
  intro path
  rcases Relation.reflTransGen_iff_eq_or_transGen.1 path with same | down
  · exact other same.symm
  · rcases TransGen.tail'_iff.1 down with ⟨p, path, last⟩
    -- What lists the sibling is the start itself, and nothing leads back to that.
    have listed : p = start := tree.parent p start c (path.head hb) .refl last hc
    exact tree.not_reaches_start hb (listed ▸ path)

/-- What is below two successors of the start is below one of them by way of the other. -/
theorem apart (tree : g.TreeFrom start) (hb : g.Step start b) (hc : g.Step start c) (other : b ≠ c)
    (fromB : ReflTransGen g.Step b a) : ¬ ReflTransGen g.Step c a := by
  intro fromC
  -- Seen from below there is one way up to the start, and both successors would be on it.
  let Up : α → α → Prop := fun x p => ReflTransGen g.Step start p ∧ g.Step p x
  have unique : Relator.RightUnique Up := fun x p q hp hq => tree.parent p q x hp.1 hq.1 hp.2 hq.2
  have up : ∀ {s x}, g.Step start s → ReflTransGen g.Step s x → ReflTransGen Up x s := by
    intro s x hs path
    induction path with
    | refl => exact .refl
    | tail path step ih => exact ih.head ⟨path.head hs, step⟩
  have down : ∀ {s t}, ReflTransGen Up s t → ReflTransGen g.Step t s := by
    intro s t path
    apply Relation.reflTransGen_swap.1
    exact ReflTransGen.mono (fun _ _ link => link.2) s t path
  rcases ReflTransGen.total_of_right_unique unique (up hb fromB) (up hc fromC) with path | path
  · exact tree.not_reaches_sibling hc hb other.symm (down path)
  · exact tree.not_reaches_sibling hb hc other (down path)

/-- Over a tree the walk is the start followed by the walks from its successors. -/
theorem depthFirst_eq [DecidableEq α] (tree : g.TreeFrom start) :
    g.depthFirst start = start :: (g.next start).flatMap g.depthFirst := by
  have below : g.depthFirstFrom (g.next start) [start] = (g.next start).flatMap g.depthFirst := by
    apply g.depthFirstFrom_eq_flatMap
    · exact (tree.once start .refl).imp_of_mem fun hb hc other _ => tree.apart hb hc other
    · intro b hb a path known
      exact tree.not_reaches_start hb (List.mem_singleton.1 known ▸ path)
  rw [depthFirst, depthFirstFrom_new g List.not_mem_nil, List.append_nil, below]

/-- Whether there is a tree below a node can be seen from what the walk lists. -/
theorem iff_depthFirst [DecidableEq α] : g.TreeFrom start ↔ ∀ a ∈ g.depthFirst start, start ∉ g.next a ∧
    (g.next a).Nodup ∧ ∀ b ∈ g.depthFirst start, ∀ x ∈ g.next a, x ∈ g.next b → a = b := by
  simp only [mem_depthFirst_iff]
  constructor
  · intro tree a path
    exact ⟨tree.root a path, tree.once a path, fun b path' x => tree.parent a b x path path'⟩
  · intro h
    exact ⟨fun a path => (h a path).1, fun a path => (h a path).2.1,
      fun a b x path path' => (h a path).2.2 b path' x⟩

end TreeFrom
end Links
end Graph
end StoryLoom
