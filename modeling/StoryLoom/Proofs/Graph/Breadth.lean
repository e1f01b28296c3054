import Mathlib.Order.Lattice.Nat
import Mathlib.Tactic.Tauto
import StoryLoom.Proofs.Graph.Reachability

/-!
# Breadth — the breadth-first walk goes by distance

- `Walk`, `distance` : ways of so many steps, and the length of the shortest one
- `Level`            : what is pending and seen while nodes at one distance are taken up
- `pairwise_distance_breadthFirst` : no node is listed before a nearer one
- `Queued`           : the walk that marks a node when it is put into the queue
- `queued_breadthFirst` : it lists the same
-/

namespace StoryLoom
namespace Graph

variable {α : Type}

/-! ## Distance -/

/-- A way of so many steps. -/
def Walk (step : α → α → Prop) : Nat → α → α → Prop
  | 0, a, b => a = b
  | n + 1, a, c => ∃ b, Walk step n a b ∧ step b c

/-- How many steps the shortest way takes. -/
noncomputable def distance (step : α → α → Prop) (start a : α) : Nat :=
  sInf {n | Walk step n start a}

/-- A path has some length. -/
theorem exists_walk {step : α → α → Prop} {a b : α} (path : Relation.ReflTransGen step a b) :
    ∃ n, Walk step n a b := by
  induction path with
  | refl => exact ⟨0, rfl⟩
  | tail _ last ih =>
    rcases ih with ⟨n, walk⟩
    exact ⟨n + 1, _, walk, last⟩

/-- The distance is the length of a walk. -/
theorem walk_distance {step : α → α → Prop} {a b : α} (path : Relation.ReflTransGen step a b) :
    Walk step (distance step a b) a b :=
  Nat.sInf_mem (exists_walk path)

namespace Links

variable {g : Links α} {start a b : α} {n k : Nat}

/-- What can be reached in so many steps or fewer. -/
def Within (g : Links α) (start : α) (n : Nat) (a : α) : Prop :=
  ∃ k, k ≤ n ∧ Walk g.Step k start a

/-- What is reached in n steps lies no farther off than that. -/
theorem distance_le_of_within (within : g.Within start n a) : distance g.Step start a ≤ n := by
  rcases within with ⟨k, small, walk⟩
  exact Nat.le_trans (Nat.sInf_le walk) small

/-- More steps reach no less. -/
theorem within_mono (within : g.Within start k a) (h : k ≤ n) : g.Within start n a := by
  rcases within with ⟨j, small, walk⟩
  exact ⟨j, Nat.le_trans small h, walk⟩

/-- Without a step nothing but the start is reached. -/
theorem within_zero_iff : g.Within start 0 a ↔ a = start := by
  constructor
  · rintro ⟨k, small, walk⟩
    obtain rfl : k = 0 := Nat.le_zero.1 small
    exact Eq.symm walk
  · rintro rfl
    exact ⟨0, Nat.le_refl 0, rfl⟩

/-- A step further, a node is as near as before or follows one that is. -/
theorem within_succ_iff :
    g.Within start (n + 1) a ↔ g.Within start n a ∨ ∃ b, g.Within start n b ∧ g.Step b a := by
  constructor
  · rintro ⟨k, small, walk⟩
    rcases Nat.lt_or_eq_of_le small with smaller | rfl
    · exact .inl ⟨k, Nat.le_of_lt_succ smaller, walk⟩
    · rcases walk with ⟨b, walk, step⟩
      exact .inr ⟨b, ⟨n, Nat.le_refl n, walk⟩, step⟩
  · rintro (within | ⟨b, ⟨k, small, walk⟩, step⟩)
    · exact within_mono within (Nat.le_succ n)
    · exact ⟨k + 1, Nat.succ_le_succ small, b, walk, step⟩

/-! ## Levels -/

/-- What holds while the nodes at distance `n` are taken up: of the pending nodes, `here` are these and `beyond`
are a step further; what is nearer has been seen. -/
structure Level (g : Links α) (start : α) (n : Nat) (here beyond seen : List α) : Prop where
  near : ∀ a ∈ here, g.Within start n a
  far : ∀ a ∈ beyond, g.Within start (n + 1) a
  passed : ∀ k a, k < n → g.Within start k a → a ∈ seen
  pending : ∀ a, g.Within start n a → a ∈ seen ∨ a ∈ here
  below : ∀ a ∈ seen, ∀ b, g.Step a b → b ∈ seen ∨ b ∈ here ∨ b ∈ beyond

namespace Level

variable {here beyond seen rest : List α}

/-- At the beginning the start alone waits, at distance zero. -/
theorem initial : g.Level start 0 [start] [] [] where
  near := by
    intro a among
    exact within_zero_iff.2 (List.mem_singleton.1 among)
  far := nofun
  passed := nofun
  pending := fun a within => .inr (List.mem_singleton.2 (within_zero_iff.1 within))
  below := nofun

/-- A node that was seen is passed over. -/
theorem skip (level : g.Level start n (a :: rest) beyond seen) (known : a ∈ seen) :
    g.Level start n rest beyond seen where
  near := fun b among => level.near b (List.mem_cons_of_mem a among)
  far := level.far
  passed := level.passed
  pending := by
    intro b within
    rcases level.pending b within with seen | among
    · exact .inl seen
    · rcases List.mem_cons.1 among with rfl | later
      · exact .inl known
      · exact .inr later
  below := by
    intro b hb c step
    rcases level.below b hb c step with seen | among | beyond
    · exact .inl seen
    · rcases List.mem_cons.1 among with rfl | later
      · exact .inl known
      · exact .inr (.inl later)
    · exact .inr (.inr beyond)

/-- What follows a node at this distance is at most a step further. -/
theorem visit (level : g.Level start n (a :: rest) beyond seen) :
    g.Level start n rest (beyond ++ g.next a) (a :: seen) where
  near := fun b among => level.near b (List.mem_cons_of_mem a among)
  far := by
    intro b among
    -- Its successors are a step farther off, and so is what waits behind this level.
    rcases List.mem_append.1 among with beyond | step
    · exact level.far b beyond
    · exact within_succ_iff.2 (.inr ⟨a, level.near a List.mem_cons_self, step⟩)
  passed := fun k b small within => List.mem_cons_of_mem a (level.passed k b small within)
  pending := by
    intro b within
    rcases level.pending b within with seen | among
    · exact .inl (List.mem_cons_of_mem a seen)
    · rcases List.mem_cons.1 among with rfl | later
      · exact .inl List.mem_cons_self
      · exact .inr later
  below := by
    intro b hb c step
    rcases List.mem_cons.1 hb with rfl | hb
    · exact .inr (.inr (List.mem_append_right _ step))
    · rcases level.below b hb c step with seen | among | beyond
      · exact .inl (List.mem_cons_of_mem a seen)
      · rcases List.mem_cons.1 among with rfl | later
        · exact .inl List.mem_cons_self
        · exact .inr (.inl later)
      · exact .inr (.inr (List.mem_append_left _ beyond))

/-- When nothing at this distance is left, what is a step further is next. -/
theorem ascend (level : g.Level start n [] beyond seen) : g.Level start (n + 1) beyond [] seen := by
  have known : ∀ a, g.Within start n a → a ∈ seen := by
    intro a within
    exact (level.pending a within).resolve_right List.not_mem_nil
  refine ⟨level.far, nofun, ?_, ?_, ?_⟩
  · intro k a small within
    exact known a (within_mono within (Nat.le_of_lt_succ small))
  · intro a within
    rcases within_succ_iff.1 within with nearer | ⟨b, nearer, step⟩
    · exact .inl (known a nearer)
    · have followed := level.below b (known b nearer) a step
      exact followed.imp_right fun among => among.resolve_left List.not_mem_nil
  · intro a ha b step
    have followed := level.below a ha b step
    exact followed.imp_right fun among => .inl (among.resolve_left List.not_mem_nil)

/-- The next pending node is at this distance, or nothing here is left and it is a step further. -/
theorem next (level : g.Level start n here beyond seen) (waits : a :: rest = here ++ beyond) :
    ∃ n here beyond, g.Level start n (a :: here) beyond seen ∧ rest = here ++ beyond := by
  cases here with
  | nil =>
    rw [List.nil_append] at waits
    rcases waits with rfl
    exact ⟨n + 1, rest, [], level.ascend, (List.append_nil rest).symm⟩
  | cons b here =>
    injection waits with same waits
    rcases same with rfl
    exact ⟨n, here, beyond, level, waits⟩

end Level

variable [DecidableEq α]

/-- While nodes at distance `n` are taken up, no node that is listed is nearer. -/
theorem Level.le_of_listed {here beyond seen queue : List α} (level : g.Level start n here beyond seen)
    (listed : a ∈ g.breadthFirstFrom queue seen) (within : g.Within start k a) : n ≤ k := by
  apply Nat.le_of_not_lt
  intro small
  exact (g.visits_breadthFirstFrom queue seen).not_mem_seen listed (level.passed k a small within)

/-- No node is listed before one that can be reached in fewer steps. -/
theorem Level.pairwise_within {here beyond seen queue : List α}
    (level : g.Level start n here beyond seen) (waits : queue = here ++ beyond) :
    (g.breadthFirstFrom queue seen).Pairwise fun a b => ∀ k, g.Within start k b → g.Within start k a := by
  -- By induction on the walk. The level is that of the first pending node, so it rises along the way.
  fun_induction breadthFirstFrom g queue seen generalizing n here beyond with
  | case1 seen => exact .nil
  | case2 seen a rest known ih =>
    rcases level.next waits with ⟨n, here, beyond, level, later⟩
    exact ih (level.skip known) later
  | case3 seen a rest new ih =>
    rcases level.next waits with ⟨n, here, beyond, level, later⟩
    have queued : rest ++ g.next a = here ++ (beyond ++ g.next a) := by rw [later, List.append_assoc]
    refine List.pairwise_cons.2 ⟨?_, ih level.visit queued⟩
    -- What is listed later is not nearer, and this node is as near as its level.
    intro b listed k within
    exact within_mono (level.near a List.mem_cons_self) (level.visit.le_of_listed listed within)

/-- The breadth-first walk goes by distance: it lists no node before a nearer one. -/
theorem pairwise_distance_breadthFirst (g : Links α) (start : α) :
    (g.breadthFirst start).Pairwise fun a b => distance g.Step start a ≤ distance g.Step start b := by
  have ordered : (g.breadthFirst start).Pairwise fun a b =>
      ∀ k, g.Within start k b → g.Within start k a := Level.initial.pairwise_within rfl
  -- A shortest way to the later node bounds the distance of the earlier one.
  apply ordered.imp_of_mem
  intro a b _ listed nearer
  have reached : Relation.ReflTransGen g.Step start b := mem_breadthFirst_iff.1 listed
  exact distance_le_of_within (nearer _ ⟨_, Nat.le_refl _, walk_distance reached⟩)

/-! ## Marking nodes when they are queued -/

/-- The nodes of a list that are not marked, each once: they are marked as they are met. -/
def fresh (marked : List α) : List α → List α
  | [] => []
  | a :: rest => if a ∈ marked then fresh marked rest else a :: fresh (a :: marked) rest

/-- What a walk lists that marks nodes when it puts them into the queue. -/
inductive Queued (g : Links α) : List α → List α → List α → Prop
  | done {marked : List α} : Queued g [] marked []
  | take {a : α} {rest marked out : List α}
      (later : Queued g (rest ++ fresh marked (g.next a)) (fresh marked (g.next a) ++ marked) out) :
      Queued g (a :: rest) marked (a :: out)

theorem fresh_congr {marked marked' : List α} (same : ∀ a, a ∈ marked ↔ a ∈ marked') (l : List α) :
    fresh marked l = fresh marked' l := by
  induction l generalizing marked marked' with
  | nil => rfl
  | cons a rest ih =>
    have further : ∀ b, b ∈ a :: marked ↔ b ∈ a :: marked' := by
      intro b
      rw [List.mem_cons, List.mem_cons, same b]
    simp only [fresh, same a, ih same, ih further]

/-- Only what is not marked yet joins the queue. -/
theorem mem_fresh_iff {marked l : List α} : a ∈ fresh marked l ↔ a ∈ l ∧ a ∉ marked := by
  induction l generalizing marked with
  | nil => simp [fresh]
  | cons b rest ih =>
    by_cases known : b ∈ marked
    · rw [fresh, if_pos known, ih, List.mem_cons]
      constructor
      · rintro ⟨later, new⟩
        exact ⟨.inr later, new⟩
      · rintro ⟨rfl | later, new⟩
        · exact absurd known new
        · exact ⟨later, new⟩
    · rw [fresh, if_neg known, List.mem_cons, ih, List.mem_cons, List.mem_cons]
      constructor
      · rintro (rfl | ⟨later, new⟩)
        · exact ⟨.inl rfl, known⟩
        · exact ⟨.inr later, fun there => new (.inr there)⟩
      · rintro ⟨rfl | later, new⟩
        · exact .inl rfl
        · by_cases same : a = b
          · exact .inl same
          · exact .inr ⟨later, fun there => there.elim same new⟩

/-- What comes first is marked before the rest. -/
theorem fresh_append (marked front back : List α) :
    fresh marked (front ++ back) = fresh marked front ++ fresh (fresh marked front ++ marked) back := by
  induction front generalizing marked with
  | nil => rfl
  | cons a rest ih =>
    by_cases known : a ∈ marked
    · simp only [List.cons_append, fresh, if_pos known, ih]
    · simp only [List.cons_append, fresh, if_neg known, ih]
      -- The same nodes are marked on both sides, in another order.
      congr 2
      apply fresh_congr
      intro b
      simp only [List.mem_append, List.mem_cons]
      exact or_left_comm

/-- The queue of the walk that marks early is that of the walk that marks late, without what was seen and
without repetitions. -/
theorem queued_breadthFirstFrom (g : Links α) {queue seen marked : List α}
    (marks : ∀ a, a ∈ marked ↔ a ∈ seen ∨ a ∈ queue) :
    g.Queued (fresh seen queue) marked (g.breadthFirstFrom queue seen) := by
  fun_induction breadthFirstFrom g queue seen generalizing marked with
  | case1 seen => exact .done
  | case2 seen a rest known ih =>
    rw [fresh, if_pos known]
    apply ih
    intro b
    rw [marks b, List.mem_cons]
    constructor
    · rintro (seen | rfl | later)
      · exact .inl seen
      · exact .inl known
      · exact .inr later
    · exact Or.imp_right .inr
  | case3 seen a rest new ih =>
    rw [fresh, if_neg new]
    apply Queued.take
    -- What the node adds to the early walk's queue is what it adds to the late one's that is not pending yet.
    have queue_eq : fresh (a :: seen) (rest ++ g.next a) =
        fresh (a :: seen) rest ++ fresh marked (g.next a) := by
      rw [fresh_append]
      congr 1
      apply fresh_congr
      intro b
      simp only [List.mem_append, mem_fresh_iff, marks b, List.mem_cons]
      tauto
    rw [← queue_eq]
    apply ih
    intro b
    simp only [List.mem_append, mem_fresh_iff, marks b, List.mem_cons]
    tauto

/-- The walk that marks nodes when it queues them lists what the breadth-first walk lists. -/
theorem queued_breadthFirst (g : Links α) (start : α) :
    g.Queued [start] [start] (g.breadthFirst start) := by
  have marks : ∀ a, a ∈ [start] ↔ a ∈ [] ∨ a ∈ [start] := by simp
  exact g.queued_breadthFirstFrom marks

end Links
end Graph
end StoryLoom
