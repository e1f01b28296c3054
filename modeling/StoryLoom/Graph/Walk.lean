/-!
# Walk — visiting the nodes of a finite directed graph

- `Links α`      : ordered successors, non-empty for finitely many nodes only
- `depthFirst`   : the nodes reached from a start, each followed by what is new below it
- `breadthFirst` : the nodes reached from a start, nearer nodes first

Both walks list every node once, at its first visit. They end because each visit of a node with
successors leaves one node fewer to be seen.
-/

namespace StoryLoom
namespace Graph

/-- The ordered successors of each node. Nodes outside `sources` have none. -/
structure Links (α : Type) where
  next : α → List α
  sources : List α
  next_eq_nil : ∀ a, a ∉ sources → next a = []

namespace Links

variable {α : Type} [DecidableEq α]

def unseen (g : Links α) (seen : List α) : Nat :=
  g.sources.countP (fun a => a ∉ seen)

theorem countP_notMem_mono (l : List α) {seen more : List α} (h : ∀ b ∈ seen, b ∈ more) :
    l.countP (fun b => b ∉ more) ≤ l.countP (fun b => b ∉ seen) := by
  apply List.countP_mono_left
  intro b _ new
  simp only [decide_eq_true_eq] at new ⊢
  exact fun known => new (h b known)

theorem countP_notMem_cons_lt {l seen : List α} {a : α} (hl : a ∈ l) (hs : a ∉ seen) :
    l.countP (fun b => b ∉ a :: seen) < l.countP (fun b => b ∉ seen) := by
  induction l with
  | nil => simp at hl
  | cons b rest ih =>
    simp only [List.countP_cons]
    by_cases hb : b = a
    · subst hb
      have hle := countP_notMem_mono rest fun c (hc : c ∈ seen) => List.mem_cons_of_mem b hc
      rw [if_neg (by simp), if_pos (by simp [hs])]
      omega
    · have hrest : a ∈ rest := by
        rcases List.mem_cons.1 hl with h | h
        · exact absurd h.symm hb
        · exact h
      have hlt := ih hrest
      have hiff : decide (b ∉ a :: seen) = decide (b ∉ seen) := by simp [hb]
      rw [hiff]
      omega

/-- Seeing a further source leaves fewer to see, which is what ends a walk. -/
theorem unseen_lt (g : Links α) {seen : List α} {a : α} (ha : a ∈ g.sources) (hs : a ∉ seen) :
    g.unseen (a :: seen) < g.unseen seen :=
  countP_notMem_cons_lt ha hs

theorem unseen_mono (g : Links α) {seen more : List α} (h : ∀ b ∈ seen, b ∈ more) :
    g.unseen more ≤ g.unseen seen :=
  countP_notMem_mono g.sources h

/-- With no less seen and fewer nodes to come, less is left to do. -/
theorem passing_decreases (g : Links α) {seen more nodes fewer : List α} (h : ∀ b ∈ seen, b ∈ more)
    (shorter : fewer.length < nodes.length) :
    Prod.Lex (· < ·) (· < ·) (g.unseen more, fewer.length) (g.unseen seen, nodes.length) := by
  rcases Nat.lt_or_eq_of_le (g.unseen_mono h) with smaller | same
  · exact Prod.Lex.left _ _ smaller
  · rw [same]
    exact Prod.Lex.right _ shorter

/-- A first visit leaves one source fewer to be seen, or it is of a node without successors. -/
theorem first_visit_decreases (g : Links α) {seen rest after : List α} {a : α} (hs : a ∉ seen)
    (hafter : g.next a = [] → after.length ≤ rest.length) :
    Prod.Lex (· < ·) (· < ·) (g.unseen (a :: seen), after.length)
      (g.unseen seen, (a :: rest).length) := by
  by_cases ha : a ∈ g.sources
  · exact Prod.Lex.left _ _ (g.unseen_lt ha hs)
  · have hrest := hafter (g.next_eq_nil a ha)
    exact g.passing_decreases (fun b hb => List.mem_cons_of_mem a hb) (Nat.lt_succ_of_le hrest)

/-- A first visit makes either the unseen sources or the pending list smaller. -/
theorem visit_decreases (g : Links α) {seen rest after : List α} {a : α} (hs : a ∉ seen)
    (hafter : g.next a = [] → after = rest) :
    Prod.Lex (· < ·) (· < ·) (g.unseen (a :: seen), after.length)
      (g.unseen seen, (a :: rest).length) :=
  g.first_visit_decreases hs fun hn => Nat.le_of_eq (congrArg List.length (hafter hn))

/-- Depth-first walk over a stack of pending nodes: the successors of a new node go on top. -/
def depthFirstFrom (g : Links α) (stack seen : List α) : List α :=
  match stack with
  | [] => []
  | a :: rest =>
    if _h : a ∈ seen then g.depthFirstFrom rest seen
    else a :: g.depthFirstFrom (g.next a ++ rest) (a :: seen)
termination_by (g.unseen seen, stack.length)
decreasing_by
  · exact Prod.Lex.right _ (by simp)
  · exact g.visit_decreases _h (fun hn => by rw [hn]; rfl)

/-- The nodes reached from `start`, depth first, successors in their order. -/
def depthFirst (g : Links α) (start : α) : List α :=
  g.depthFirstFrom [start] []

/-- Breadth-first walk over a queue of pending nodes: the successors of a new node go last. -/
def breadthFirstFrom (g : Links α) (queue seen : List α) : List α :=
  match queue with
  | [] => []
  | a :: rest =>
    if _h : a ∈ seen then g.breadthFirstFrom rest seen
    else a :: g.breadthFirstFrom (rest ++ g.next a) (a :: seen)
termination_by (g.unseen seen, queue.length)
decreasing_by
  · exact Prod.Lex.right _ (by simp)
  · exact g.visit_decreases _h (fun hn => by rw [hn, List.append_nil])

/-- The nodes reached from `start`, breadth first, successors in their order. -/
def breadthFirst (g : Links α) (start : α) : List α :=
  g.breadthFirstFrom [start] []

/-! ## One step of the depth-first walk -/

theorem depthFirstFrom_nil (g : Links α) (seen : List α) : g.depthFirstFrom [] seen = [] := by
  rw [depthFirstFrom]

/-- A node that was seen is passed over. -/
theorem depthFirstFrom_seen (g : Links α) {a : α} {rest seen : List α} (h : a ∈ seen) :
    g.depthFirstFrom (a :: rest) seen = g.depthFirstFrom rest seen := by
  rw [depthFirstFrom]; simp [h]

/-- A new node is listed, and its successors go on top of the stack. -/
theorem depthFirstFrom_new (g : Links α) {a : α} {rest seen : List α} (h : a ∉ seen) :
    g.depthFirstFrom (a :: rest) seen =
      a :: g.depthFirstFrom (g.next a ++ rest) (a :: seen) := by
  rw [depthFirstFrom]; simp [h]

end Links
end Graph
end StoryLoom
