import Mathlib.Algebra.Ring.Nat
import Mathlib.Logic.Relation

/-!
# Load — the weight of what comes after a node

- `load`         : the weight of the nodes that a node leads to, over any number of steps
- `load_le_load` : along a step, the load falls by the weight of the next node
- `load_le_total`: a node and its load weigh no more than all nodes

A relation with finitely many weighted nodes and no way back has a bound on every path in this way.
-/

namespace StoryLoom
namespace Graph

variable {α : Type}

/-! ## Sums over some of the nodes -/

section Sums

variable {p q : α × Nat → Bool} {l : List (α × Nat)} {e : α × Nat}

/-- A wider choice weighs at least as much. -/
theorem sum_filter_le_sum_filter (wider : ∀ x, p x = true → q x = true) :
    ((l.filter p).map Prod.snd).sum ≤ ((l.filter q).map Prod.snd).sum := by
  induction l with
  | nil => exact Nat.le_refl 0
  | cons x rest ih =>
    by_cases hp : p x = true
    · simp only [List.filter_cons_of_pos hp, List.filter_cons_of_pos (wider x hp),
        List.map_cons, List.sum_cons]
      omega
    · by_cases hq : q x = true
      · simp only [List.filter_cons_of_neg hp, List.filter_cons_of_pos hq, List.map_cons,
          List.sum_cons]
        omega
      · simpa only [List.filter_cons_of_neg hp, List.filter_cons_of_neg hq] using ih

/-- A node that only the wider choice has weighs on it. -/
theorem add_sum_filter_le (wider : ∀ x, p x = true → q x = true) (among : e ∈ l)
    (left : p e = false) (taken : q e = true) :
    e.2 + ((l.filter p).map Prod.snd).sum ≤ ((l.filter q).map Prod.snd).sum := by
  obtain ⟨before, after, rfl⟩ := List.append_of_mem among
  have out : ¬ p e = true := by simp [left]
  have first := sum_filter_le_sum_filter (l := before) wider
  have last := sum_filter_le_sum_filter (l := after) wider
  simp only [List.filter_append, List.filter_cons_of_neg out, List.filter_cons_of_pos taken,
    List.map_append, List.map_cons, List.sum_append, List.sum_cons]
  omega

end Sums

/-! ## The load of a node -/

variable {r : α → α → Prop} {nodes : List (α × Nat)} {a b : α} {w : Nat}

open Classical in
/-- The weight of the nodes that a node leads to. -/
noncomputable def load (r : α → α → Prop) (nodes : List (α × Nat)) (a : α) : Nat :=
  ((nodes.filter fun e => Relation.TransGen r a e.1).map Prod.snd).sum

/-- Along a step the load falls by the weight of the next node. -/
theorem load_le_load (acyclic : ∀ a, ¬ Relation.TransGen r a a) (node : (b, w) ∈ nodes)
    (step : r a b) : w + load r nodes b ≤ load r nodes a := by
  have after : ∀ e : α × Nat, Relation.TransGen r b e.1 → Relation.TransGen r a e.1 :=
    fun _ path => .head step path
  have here : Relation.TransGen r a b := .single step
  exact add_sum_filter_le (e := (b, w)) (by simpa using after) node (by simpa using acyclic b)
    (by simpa using here)

/-- A node and what it leads to weigh no more than all nodes. -/
theorem load_le_total (acyclic : ∀ a, ¬ Relation.TransGen r a a) (node : (b, w) ∈ nodes) :
    w + load r nodes b ≤ (nodes.map Prod.snd).sum := by
  have all : nodes.filter (fun _ => true) = nodes := List.filter_eq_self.2 fun _ _ => rfl
  calc w + load r nodes b
      ≤ ((nodes.filter fun _ => true).map Prod.snd).sum :=
        add_sum_filter_le (e := (b, w)) (fun _ _ => rfl) node (by simpa using acyclic b) rfl
    _ = (nodes.map Prod.snd).sum := by rw [all]

end Graph
end StoryLoom
