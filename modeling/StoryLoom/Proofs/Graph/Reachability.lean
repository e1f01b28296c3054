import Mathlib.Logic.Relation
import StoryLoom.Graph.Walk

/-!
# Reachability — what a walk lists

- `Links.Step`         : from a node to one of its successors
- `Links.Visits`       : a walk that takes up the successors of new nodes in any place
- `mem_depthFirst_iff`, `mem_breadthFirst_iff` : both walks list the nodes that can be reached from their
  start
- `nodup_depthFirst`, `nodup_breadthFirst`     : they list each of them once
- `Visits.pending_or_follows` : what they list follows something that they list before it
- `depthFirst_eq_cons` : the depth-first walk lists its start first
-/

namespace StoryLoom
namespace Graph
namespace Links

variable {α : Type}

def Step (g : Links α) (a b : α) : Prop :=
  b ∈ g.next a

/-! ## Over pending nodes -/

/-- What a walk lists over pending nodes, apart from those seen. Where the successors of a new node are put
among the pending nodes is left open. -/
inductive Visits (g : Links α) : List α → List α → List α → Prop
  | done {seen : List α} : Visits g [] seen []
  | skip {a : α} {rest seen out : List α} (known : a ∈ seen) (later : Visits g rest seen out) :
      Visits g (a :: rest) seen out
  | visit {a : α} {rest pending seen out : List α} (new : a ∉ seen)
      (taken : ∀ b, b ∈ pending ↔ b ∈ g.next a ∨ b ∈ rest)
      (later : Visits g pending (a :: seen) out) : Visits g (a :: rest) seen (a :: out)

variable {g : Links α} {pending seen out : List α} {a b start : α}

namespace Visits

/-- What is listed can be reached from a pending node. -/
theorem exists_reaches (h : g.Visits pending seen out) (listed : a ∈ out) :
    ∃ s ∈ pending, Relation.ReflTransGen g.Step s a := by
  induction h with
  | done => cases listed
  | @skip s rest seen out known _ ih =>
    obtain ⟨t, ht, path⟩ := ih listed
    exact ⟨t, List.mem_cons_of_mem s ht, path⟩
  | @visit s rest pending seen out new taken _ ih =>
    rcases List.mem_cons.1 listed with rfl | later
    · exact ⟨a, List.mem_cons_self, .refl⟩
    · obtain ⟨t, ht, path⟩ := ih later
      rcases (taken t).1 ht with below | ht
      · exact ⟨s, List.mem_cons_self, path.head below⟩
      · exact ⟨t, List.mem_cons_of_mem s ht, path⟩

/-- Nothing is listed that was seen before. -/
theorem not_mem_seen (h : g.Visits pending seen out) (listed : a ∈ out) : a ∉ seen := by
  induction h with
  | done => cases listed
  | skip known _ ih => exact ih listed
  | @visit s rest pending seen out new taken _ ih =>
    rcases List.mem_cons.1 listed with rfl | later
    · exact new
    · exact fun known => ih later (List.mem_cons_of_mem s known)

/-- Nothing is listed twice. -/
theorem nodup (h : g.Visits pending seen out) : out.Nodup := by
  induction h with
  | done => exact List.nodup_nil
  | skip known _ ih => exact ih
  | visit new taken later ih =>
    exact List.nodup_cons.2 ⟨fun again => later.not_mem_seen again List.mem_cons_self, ih⟩

/-- Every pending node is seen or listed. -/
theorem mem_of_pending (h : g.Visits pending seen out) (waits : a ∈ pending) : a ∈ seen ∨ a ∈ out := by
  induction h with
  | done => cases waits
  | @skip s rest seen out known _ ih =>
    rcases List.mem_cons.1 waits with rfl | later
    · exact .inl known
    · exact ih later
  | @visit s rest pending seen out new taken _ ih =>
    rcases List.mem_cons.1 waits with rfl | later
    · exact .inr List.mem_cons_self
    · rcases ih ((taken a).2 (.inr later)) with known | listed
      · rcases List.mem_cons.1 known with rfl | known
        · exact .inr List.mem_cons_self
        · exact .inl known
      · exact .inr (List.mem_cons_of_mem s listed)

/-- Every successor of a listed node is seen or listed. -/
theorem mem_of_step (h : g.Visits pending seen out) (listed : a ∈ out) (step : g.Step a b) :
    b ∈ seen ∨ b ∈ out := by
  induction h with
  | done => cases listed
  | skip known _ ih => exact ih listed
  | @visit s rest pending seen out new taken later ih =>
    -- The successors of a new node become pending when it is listed.
    have found : b ∈ s :: seen ∨ b ∈ out := by
      rcases List.mem_cons.1 listed with rfl | behind
      · exact later.mem_of_pending ((taken b).2 (.inl step))
      · exact ih behind
    rcases found with known | listed
    · rcases List.mem_cons.1 known with rfl | known
      · exact .inr List.mem_cons_self
      · exact .inl known
    · exact .inr (List.mem_cons_of_mem s listed)

/-- What is listed was pending, or follows something that is listed before it. -/
theorem pending_or_follows {front back : List α} (h : g.Visits pending seen out)
    (place : out = front ++ a :: back) : a ∈ pending ∨ ∃ b ∈ front, g.Step b a := by
  induction h generalizing front with
  | done => cases front <;> cases place
  | @skip s rest seen out known _ ih => exact (ih place).imp_left (List.mem_cons_of_mem s)
  | @visit s rest pending seen out new taken _ ih =>
    cases front with
    | nil =>
      cases place
      exact .inl List.mem_cons_self
    | cons t front =>
      injection place with same place
      rcases same with rfl
      rcases ih place with waits | ⟨b, before, step⟩
      · rcases (taken a).1 waits with below | later
        · exact .inr ⟨s, List.mem_cons_self, below⟩
        · exact .inl (List.mem_cons_of_mem s later)
      · exact .inr ⟨b, List.mem_cons_of_mem s before, step⟩

/-- A walk that begins with one node lists what can be reached from it. -/
theorem mem_iff (h : g.Visits [start] [] out) : a ∈ out ↔ Relation.ReflTransGen g.Step start a := by
  constructor
  · intro listed
    obtain ⟨s, hs, path⟩ := h.exists_reaches listed
    rwa [List.mem_singleton.1 hs] at path
  · intro path
    induction path with
    | refl => exact (h.mem_of_pending (List.mem_singleton_self start)).resolve_left List.not_mem_nil
    | tail _ step ih => exact (h.mem_of_step ih step).resolve_left List.not_mem_nil

end Visits

/-! ## From a start -/

variable [DecidableEq α]

/-- Putting the successors in front of what is pending visits. -/
theorem visits_depthFirstFrom (g : Links α) (stack seen : List α) :
    g.Visits stack seen (g.depthFirstFrom stack seen) := by
  fun_induction depthFirstFrom g stack seen with
  | case1 seen => exact .done
  | case2 seen s rest known ih => exact .skip known ih
  | case3 seen s rest new ih => exact .visit new (fun b => List.mem_append) ih

/-- Putting them behind does as well. -/
theorem visits_breadthFirstFrom (g : Links α) (queue seen : List α) :
    g.Visits queue seen (g.breadthFirstFrom queue seen) := by
  fun_induction breadthFirstFrom g queue seen with
  | case1 seen => exact .done
  | case2 seen s rest known ih => exact .skip known ih
  | case3 seen s rest new ih => exact .visit new (fun b => List.mem_append.trans or_comm) ih

/-- The depth-first walk lists the nodes that can be reached from its start. -/
theorem mem_depthFirst_iff : a ∈ g.depthFirst start ↔ Relation.ReflTransGen g.Step start a :=
  (g.visits_depthFirstFrom [start] []).mem_iff

theorem nodup_depthFirst (g : Links α) (start : α) : (g.depthFirst start).Nodup :=
  (g.visits_depthFirstFrom [start] []).nodup

/-- The breadth-first walk lists the same nodes. -/
theorem mem_breadthFirst_iff : a ∈ g.breadthFirst start ↔ Relation.ReflTransGen g.Step start a :=
  (g.visits_breadthFirstFrom [start] []).mem_iff

theorem nodup_breadthFirst (g : Links α) (start : α) : (g.breadthFirst start).Nodup :=
  (g.visits_breadthFirstFrom [start] []).nodup

/-- The depth-first walk lists its start first. -/
theorem depthFirst_eq_cons (g : Links α) (start : α) :
    g.depthFirst start = start :: (g.depthFirst start).tail := by
  rw [depthFirst, depthFirstFrom_new g List.not_mem_nil, List.tail_cons]

/-- Behind its start the walk lists the other nodes that can be reached. -/
theorem mem_tail_depthFirst_iff :
    a ∈ (g.depthFirst start).tail ↔ a ≠ start ∧ Relation.ReflTransGen g.Step start a := by
  have once : (start :: (g.depthFirst start).tail).Nodup := by
    rw [← depthFirst_eq_cons]
    exact g.nodup_depthFirst start
  have listed : a ∈ start :: (g.depthFirst start).tail ↔ Relation.ReflTransGen g.Step start a := by
    rw [← depthFirst_eq_cons, mem_depthFirst_iff]
  constructor
  · intro behind
    refine ⟨?_, listed.1 (List.mem_cons_of_mem start behind)⟩
    rintro rfl
    exact (List.nodup_cons.1 once).1 behind
  · rintro ⟨other, path⟩
    exact (List.mem_cons.1 (listed.2 path)).resolve_left other

end Links
end Graph
end StoryLoom
