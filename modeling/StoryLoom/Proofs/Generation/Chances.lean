import Mathlib.Algebra.Ring.Nat
import Mathlib.Data.List.Nodup
import StoryLoom.Pattern.Compile
import StoryLoom.Proofs.Generation.Pieces
import StoryLoom.Proofs.Generation.Reach
import StoryLoom.Proofs.Story.Keyed

/-!
# Chances — how the successors of a task share its chances

- `StoryModel.chanceOf`      : the chance of a task by its number
- `StoryModel.chancesBefore` : the chances of the tasks among the first of some components, added up
- `toNat_totalChance`        : chances that add up below the limit are added as they are
- `successors_share_chances` : each successor has the range between two such sums

A chance has 32 bits, and a sum of chances wraps around. What is said of the successors of a task is said where
all their chances together stay below the limit. A successor that is no task, or that does not exist, adds
nothing.
-/

namespace StoryLoom

namespace StoryModel

/-- The chance of the task of a number; nothing for all else. -/
def chanceOf (m : StoryModel) (id : ComponentId) : Nat :=
  ((m.component? id).bind Component.task?).elim 0 fun task => task.chance.toNat

/-- The sum of the chances of the tasks among the first of some components. -/
def chancesBefore (m : StoryModel) (ids : List ComponentId) (place : Nat) : Nat :=
  ((ids.take place).map m.chanceOf).sum

variable {m : StoryModel} {ids : List ComponentId} {id : ComponentId} {k : Component} {task : Task}

/-- A stored task counts with its own chance. -/
theorem chanceOf_task (found : m.component? id = some k) (isTask : k.task? = some task) :
    m.chanceOf id = task.chance.toNat := by
  simp only [chanceOf, found, Option.bind_some, isTask, Option.elim_some]

/-- The next sum is larger by the chance of the task at hand. -/
theorem chancesBefore_succ {place : Nat} (here : ids[place]? = some id) :
    m.chancesBefore ids (place + 1) = m.chancesBefore ids place + m.chanceOf id := by
  simp only [chancesBefore, List.take_add_one, here, Option.toList_some, List.map_append, List.map_cons,
    List.map_nil, List.sum_append, List.sum_cons, List.sum_nil, Nat.add_zero]

/-- Before the end stand all the chances. -/
theorem chancesBefore_length : m.chancesBefore ids ids.length = (ids.map m.chanceOf).sum := by
  rw [chancesBefore, List.take_length]

/-- No place lies beyond the whole sum. -/
theorem chancesBefore_le (place : Nat) : m.chancesBefore ids place ≤ m.chancesBefore ids ids.length := by
  have whole : ids.map m.chanceOf = (ids.take place).map m.chanceOf ++ (ids.drop place).map m.chanceOf := by
    rw [← List.map_append, List.take_append_drop]
  rw [chancesBefore_length, whole, List.sum_append]
  exact Nat.le_add_right _ _

end StoryModel

/-- What stands before the first occurrence of an element. -/
theorem takeWhile_ne_eq_take {α : Type} [DecidableEq α] {l : List α} {a : α} {place : Nat}
    (here : l[place]? = some a) (first : a ∉ l.take place) : l.takeWhile (· ≠ a) = l.take place := by
  obtain ⟨inside, found⟩ := List.getElem?_eq_some_iff.1 here
  -- All before the place differ from the element, and the element itself stops the walk.
  have others : ∀ b ∈ l.take place, decide (b ≠ a) = true := by
    intro b hb
    exact decide_eq_true fun same => first (same ▸ hb)
  have split : l = l.take place ++ a :: l.drop (place + 1) := by
    rw [← found, ← List.drop_eq_getElem_cons inside, List.take_append_drop]
  calc l.takeWhile (· ≠ a)
      = (l.take place ++ a :: l.drop (place + 1)).takeWhile (· ≠ a) := by rw [← split]
    _ = l.take place := by
        rw [List.takeWhile_append_of_pos others, List.takeWhile_cons_of_neg (by simp), List.append_nil]

/-- An element of a list without repetition occurs first where it occurs. -/
theorem notMem_take_of_nodup {α : Type} {l : List α} {a : α} {place : Nat} (distinct : l.Nodup)
    (here : l[place]? = some a) : a ∉ l.take place := by
  have after : a ∈ l.drop place :=
    List.mem_iff_getElem?.2 ⟨0, by rw [List.getElem?_drop, Nat.add_zero, here]⟩
  exact fun before => List.disjoint_take_drop distinct (Nat.le_refl place) before after

/-! ## Tasks -/

namespace Context

variable {s : Setting} {c : Context} {k : Component} {task : Task}

/-- Numbers of 32 bits are added up and wrap around. -/
theorem toNat_foldl_add (chances : List UInt32) (start : UInt32) :
    (chances.foldl (· + ·) start).toNat = (start.toNat + (chances.map UInt32.toNat).sum) % UInt32.size := by
  induction chances generalizing start with
  | nil => exact (Nat.mod_eq_of_lt start.toNat_lt_size).symm
  | cons chance rest ih =>
    have next : (start + chance).toNat = (start.toNat + chance.toNat) % UInt32.size :=
      UInt32.toNat_add start chance
    rw [List.foldl_cons, ih, next, Nat.mod_add_mod, List.map_cons, List.sum_cons, Nat.add_assoc]

theorem toNat_totalChance_mod (s : Setting) (ids : List ComponentId) :
    (totalChance s ids).toNat = (ids.map s.model.chanceOf).sum % UInt32.size := by
  have added : (((ids.filterMap s.model.component?).filterMap fun k => k.task?.map Task.chance).map
      UInt32.toNat).sum = (ids.map s.model.chanceOf).sum := by
    induction ids with
    | nil => rfl
    | cons id rest ih =>
      rw [List.map_cons, List.sum_cons, ← ih, StoryModel.chanceOf]
      cases found : s.model.component? id with
      | none => simp [found]
      | some k => cases isTask : k.task? <;> simp [found, isTask]
  rw [totalChance, toNat_foldl_add, added, UInt32.toNat_zero, Nat.zero_add]

/-- Chances that add up below the limit are added as they are. -/
theorem toNat_totalChance {s : Setting} {ids : List ComponentId}
    (small : (ids.map s.model.chanceOf).sum < UInt32.size) :
    (totalChance s ids).toNat = (ids.map s.model.chanceOf).sum := by
  rw [toNat_totalChance_mod, Nat.mod_eq_of_lt small]

theorem kind_of_task? (isTask : k.task? = some task) : k.kind = .task task := by
  unfold Component.task? at isTask
  split at isTask
  · next t kind =>
    cases isTask
    exact kind
  · cases isTask

/-- The nodes of a task are its successors, in the order they were linked. -/
theorem series_childrenNodes (focus : c.focus = .component k) (isTask : k.task? = some task) :
    c.series s .childrenNodes = .ok (componentElements task.successors) := by
  simp only [series, focus, componentSeries, kind_of_task? isTask]

section Data

variable [PatternLibrary] (focus : c.focus = .component k) (isTask : k.task? = some task) (legal : Option String)

include focus isTask

/-- The number a task shows is the sum over its successors. -/
theorem data_probabilityCount : c.data s .probabilityCount legal =
    answer (toString (totalChance s task.successors)) := by
  simp only [data, focus, componentData, kind_of_task? isTask, taskData]

/-- The lower bound of a task is what its siblings before it add up to. -/
theorem data_lowerBound : c.data s .taskProbabilityLowerBound legal =
    answerOf ((c.lowerChance s k).map toString) := by
  simp only [data, focus, componentData, kind_of_task? isTask, taskData]

/-- The upper bound lies above the lower by the chance of the task. -/
theorem data_upperBound : c.data s .taskProbabilityUpperBound legal =
    answerOf ((c.lowerChance s k).map fun n => toString (n + task.chance)) := by
  simp only [data, focus, componentData, kind_of_task? isTask, taskData]

end Data

/-- Directly inside the context of a task that it follows, a task finds the chances before it. -/
theorem lowerChance_inside {parent : Focus} {rest : List Focus} {place : Nat}
    (around : c.outer = parent :: rest) (isTask : parent.task? = some task)
    (here : task.successors[place]? = some k.id) (first : k.id ∉ task.successors.take place) :
    c.lowerChance s k = .ok (totalChance s (task.successors.take place)) := by
  have among : task.successors.contains k.id = true :=
    List.contains_iff_mem.2 (List.mem_of_getElem? here)
  have siblings : c.siblings? k = some task.successors := by
    simp only [siblings?, around, isTask, Option.map_some, Option.bind_some, among, if_true]
  rw [lowerChance, siblings]
  simp only [takeWhile_ne_eq_take here first]

/-- Elsewhere it has no place. -/
theorem lowerChance_elsewhere (alone : ∀ parent rest task, c.outer = parent :: rest →
    parent.task? = some task → k.id ∉ task.successors) :
    c.lowerChance s k = .error (c.missing s "enclosing task series") := by
  have siblings : c.siblings? k = none := by
    unfold siblings?
    cases around : c.outer with
    | nil => rfl
    | cons parent rest =>
      cases isTask : parent.task? with
      | none => simp only [isTask, Option.map_none, Option.bind_none]
      | some task =>
        have absent : ¬ task.successors.contains k.id = true :=
          fun among => alone parent rest task around isTask (List.contains_iff_mem.1 among)
        simp only [isTask, Option.map_some, Option.bind_some, if_neg absent]
  rw [lowerChance, siblings]

end Context

/-! ## Ranges -/

/-- The two ends of the range of a task. -/
def chanceRange : Template :=
  [.ref "taskProbabilityLowerBound", .literal "-", .ref "taskProbabilityUpperBound"]

theorem parse?_lowerBound :
    DataKey.parse? "taskProbabilityLowerBound" = some .taskProbabilityLowerBound :=
  rfl

theorem parse?_upperBound :
    DataKey.parse? "taskProbabilityUpperBound" = some .taskProbabilityUpperBound :=
  rfl

section Ranges

variable [PatternLibrary]

namespace Context

variable {s : Setting} {c inner : Context} {k successor : Component} {task own : Task}
  {rest : List Focus} {place : Nat} (legal : Option String) (n : Namer) {expand : Expand}

/-- A task directly inside the context of one that it follows answers both ends of its range. -/
theorem bounds_inside
    (small : s.model.chancesBefore task.successors task.successors.length < UInt32.size)
    (stored : s.model.component? successor.id = some successor) (focus : c.focus = .component k) (isTask : k.task? = some task)
    (here : task.successors[place]? = some successor.id) (first : successor.id ∉ task.successors.take place)
    (inside : inner.focus = .component successor) (around : inner.outer = c.focus :: rest)
    (follows : successor.task? = some own) :
    inner.data s .taskProbabilityLowerBound legal n =
        .ok (.text (toString (s.model.chancesBefore task.successors place))) n ∧
      inner.data s .taskProbabilityUpperBound legal n =
        .ok (.text (toString (s.model.chancesBefore task.successors (place + 1)))) n := by
  have parent : c.focus.task? = some task := by rw [focus]; exact isTask
  have lower : inner.lowerChance s successor = .ok (totalChance s (task.successors.take place)) :=
    lowerChance_inside around parent here first
  -- Both ends are sums of some of the chances, so that neither wraps around.
  have below (place : Nat) : s.model.chancesBefore task.successors place < UInt32.size :=
    Nat.lt_of_le_of_lt (StoryModel.chancesBefore_le place) small
  have start : (totalChance s (task.successors.take place)).toNat =
      s.model.chancesBefore task.successors place := toNat_totalChance (below place)
  have next : s.model.chancesBefore task.successors place + own.chance.toNat =
      s.model.chancesBefore task.successors (place + 1) := by
    rw [StoryModel.chancesBefore_succ here, StoryModel.chanceOf_task stored follows]
  have stop : (totalChance s (task.successors.take place) + own.chance).toNat =
      s.model.chancesBefore task.successors (place + 1) := by
    rw [UInt32.toNat_add, start, next]
    exact Nat.mod_eq_of_lt (below (place + 1))
  rw [data_lowerBound inside follows, data_upperBound inside follows, lower, ← start, ← stop]
  exact ⟨rfl, rfl⟩

/-- A task elsewhere answers neither. -/
theorem bounds_elsewhere (inside : inner.focus = .component successor) (isTask : successor.task? = some own)
    (alone : ∀ parent rest task, inner.outer = parent :: rest → parent.task? = some task →
      successor.id ∉ task.successors) :
    inner.data s .taskProbabilityLowerBound legal n =
        .error (inner.missing s "enclosing task series") n ∧
      inner.data s .taskProbabilityUpperBound legal n =
        .error (inner.missing s "enclosing task series") n := by
  have lower : inner.lowerChance s successor = .error (inner.missing s "enclosing task series") :=
    lowerChance_elsewhere alone
  rw [data_lowerBound inside isTask, data_upperBound inside isTask, lower]
  exact ⟨rfl, rfl⟩

/-- The range of a task directly inside the context of one that it follows, as it is rendered. -/
theorem resolveWith_chanceRange
    (small : s.model.chancesBefore task.successors task.successors.length < UInt32.size)
    (focus : c.focus = .component k) (isTask : k.task? = some task)
    (here : task.successors[place]? = some successor.id) (first : successor.id ∉ task.successors.take place)
    (stored : s.model.component? successor.id = some successor) (inside : inner.focus = .component successor)
    (around : inner.outer = c.focus :: rest) (follows : successor.task? = some own) :
    resolveWith s expand chanceRange inner n =
      .ok (toString (s.model.chancesBefore task.successors place) ++ "-" ++
        toString (s.model.chancesBefore task.successors (place + 1))) n := by
  obtain ⟨lower, upper⟩ := bounds_inside none n small stored focus isTask here first inside around follows
  have start : resolveOne s expand (.ref "taskProbabilityLowerBound") inner n = .ok _ n :=
    resolveOne_reference parse?_lowerBound lower
  have between : resolveOne s expand (.literal "-") inner n = .ok "-" n := resolveOne_literal
  have stop : resolveOne s expand (.ref "taskProbabilityUpperBound") inner n = .ok _ n :=
    resolveOne_reference parse?_upperBound upper
  have whole := resolveWith_cons start (resolveWith_cons between (resolveWith_cons stop resolveWith_nil))
  rwa [String.append_empty, ← String.append_assoc] at whole

/-- The ranges of all tasks that follow a task without repetition. -/
theorem resolve_ranges (keyed : ∀ id k, s.model.component? id = some k → k.id = id)
    (small : s.model.chancesBefore task.successors task.successors.length < UInt32.size)
    (focus : c.focus = .component k) (isTask : k.task? = some task) (distinct : task.successors.Nodup)
    (tasks : ∀ id ∈ task.successors, ∃ successor own, s.model.component? id = some successor ∧
      successor.task? = some own) (separator : String) :
    resolve s [.series "childrenNodes" separator {} false chanceRange] c n =
      .ok (separator.intercalate ((List.range task.successors.length).map fun place =>
        toString (s.model.chancesBefore task.successors place) ++ "-" ++
          toString (s.model.chancesBefore task.successors (place + 1)))) n := by
  have source : seriesElements s c "childrenNodes" {} false
      (Fragment.series "childrenNodes" separator {} false chanceRange).describe =
        .ok (componentElements task.successors) := by
    have known : SeriesKey.parse? "childrenNodes" = some .childrenNodes := rfl
    rw [seriesElements, known]
    simp only [series_childrenNodes focus isTask]
    rfl
  have ranges : ∀ (place : Nat) (element : Element), (componentElements task.successors)[place]? =
      some element → ∃ inner, c.enter s element = .ok inner ∧
        resolveWith s (resolveUpTo s (s.depthBound - 1)) chanceRange inner n =
          .ok (toString (s.model.chancesBefore task.successors place) ++ "-" ++
            toString (s.model.chancesBefore task.successors (place + 1))) n := by
    intro place element here
    rw [componentElements, List.getElem?_map] at here
    obtain ⟨id, listed, rfl⟩ := Option.map_eq_some_iff.1 here
    obtain ⟨successor, own, found, follows⟩ := tasks id (List.mem_of_getElem? listed)
    -- The task is looked for by the number that it carries.
    have number : successor.id = id := keyed id successor found
    subst number
    have first : successor.id ∉ task.successors.take place := notMem_take_of_nodup distinct listed
    exact ⟨_, enter_component found,
      resolveWith_chanceRange n small focus isTask listed first found rfl rfl follows⟩
  have whole := resolve_series source ranges
  rwa [componentElements, List.length_map] at whole

end Context

/-- Let all components carry their numbers, and let the chances of the successors of a task add up below the
limit. In the series of what follows the task, each successor that is a task has the range from the chances
before its first place to these and its own together. So the ranges of tasks without repetition join
without a gap, from nothing up to the count of the task. A task that is not directly inside one that it
follows has no range. -/
theorem successors_share_chances {s : Setting} (components : ∀ p ∈ s.model.components.entries, p.2.id = p.1)
    {c : Context} {k : Component} {task : Task} (focus : c.focus = .component k)
    (isTask : k.task? = some task)
    (small : s.model.chancesBefore task.successors task.successors.length < UInt32.size)
    (legal : Option String) (n : Namer) :
    let before := s.model.chancesBefore task.successors
    c.series s .childrenNodes = .ok (componentElements task.successors) ∧
    (∀ (place : Nat) (id : ComponentId) (successor : Component) (own : Task),
      task.successors[place]? = some id → id ∉ task.successors.take place →
      s.model.component? id = some successor → successor.task? = some own →
      c.enter s (.component id) = .ok (c.inside (.component successor)) ∧
      ∀ (inner : Context) (rest : List Focus), inner.focus = .component successor →
        inner.outer = c.focus :: rest →
        resolve s [.reference "taskProbabilityLowerBound" legal] inner n =
          .ok (toString (before place)) n ∧
        resolve s [.reference "taskProbabilityUpperBound" legal] inner n =
          .ok (toString (before place + own.chance.toNat)) n) ∧
    resolve s [.reference "probabilityCount" legal] c n =
      .ok (toString (before task.successors.length)) n ∧
    (task.successors.Nodup →
      (∀ id ∈ task.successors, ∃ successor own, s.model.component? id = some successor ∧
        successor.task? = some own) →
      before 0 = 0 ∧ ∀ separator : String,
        resolve s [.series "childrenNodes" separator {} false chanceRange] c n =
          .ok (separator.intercalate ((List.range task.successors.length).map fun place =>
            toString (before place) ++ "-" ++ toString (before (place + 1)))) n) ∧
    (∀ (inner : Context) (successor : Component) (own : Task), inner.focus = .component successor →
      successor.task? = some own →
      (∀ parent rest task, inner.outer = parent :: rest → parent.task? = some task →
        successor.id ∉ task.successors) →
      resolve s [.reference "taskProbabilityLowerBound" legal] inner n =
        .error ⟨.missing "enclosing task series" (inner.describe s),
          some (Fragment.reference "taskProbabilityLowerBound" legal).describe⟩ n ∧
      resolve s [.reference "taskProbabilityUpperBound" legal] inner n =
        .error ⟨.missing "enclosing task series" (inner.describe s),
          some (Fragment.reference "taskProbabilityUpperBound" legal).describe⟩ n) := by
  intro before
  have keyed : ∀ id k, s.model.component? id = some k → k.id = id :=
    fun id k found => components (id, k) (Table.get?_eq_some_iff.1 found)
  refine ⟨Context.series_childrenNodes focus isTask, ?_, ?_, ?_, ?_⟩
  · intro place id successor own here first found follows
    have number : successor.id = id := keyed id successor found
    subst number
    refine ⟨Context.enter_component found, ?_⟩
    intro inner rest inside around
    -- The range of a successor ends where that of the next one begins.
    have next : s.model.chancesBefore task.successors (place + 1) =
        before place + own.chance.toNat := by
      rw [StoryModel.chancesBefore_succ here, StoryModel.chanceOf_task found follows]
    obtain ⟨lower, upper⟩ :=
      Context.bounds_inside legal n small found focus isTask here first inside around follows
    rw [next] at upper
    exact ⟨resolve_reference parse?_lowerBound lower, resolve_reference parse?_upperBound upper⟩
  · refine resolve_reference rfl ?_
    have total : (Context.totalChance s task.successors).toNat = before task.successors.length :=
      (Context.toNat_totalChance (StoryModel.chancesBefore_length ▸ small)).trans
        StoryModel.chancesBefore_length.symm
    rw [Context.data_probabilityCount focus isTask, ← total]
    rfl
  · intro distinct tasks
    exact ⟨rfl, Context.resolve_ranges n keyed small focus isTask distinct tasks⟩
  · intro inner successor own inside isTask alone
    obtain ⟨lower, upper⟩ := Context.bounds_elsewhere (s := s) legal n inside isTask alone
    have blamed (label : String) : (inner.missing s "enclosing task series").inFragment
        (Fragment.reference label legal).describe =
          ⟨.missing "enclosing task series" (inner.describe s),
            some (Fragment.reference label legal).describe⟩ :=
      rfl
    rw [resolve_reference_error parse?_lowerBound lower,
      resolve_reference_error parse?_upperBound upper, blamed, blamed]
    exact ⟨rfl, rfl⟩

end Ranges

open Libraries

/-- A task followed by two others. -/
def forkStory : StoryModel where
  root := ⟨0⟩
  components := .ofList [
    (⟨0⟩, ⟨⟨0⟩, "Start", none, .storyPoint { children := [⟨1⟩] }⟩),
    (⟨1⟩, ⟨⟨1⟩, "Guard", some ⟨0⟩, .behaviour [⟨2⟩, ⟨3⟩, ⟨4⟩]⟩),
    (⟨2⟩, ⟨⟨2⟩, "Patrol", some ⟨1⟩, .task { successors := [⟨3⟩, ⟨4⟩] }⟩),
    (⟨3⟩, ⟨⟨3⟩, "Rest", some ⟨1⟩, .task { chance := 30 }⟩),
    (⟨4⟩, ⟨⟨4⟩, "Shout", some ⟨1⟩, .task { chance := 70 }⟩)]

def forkSetting : Setting where
  model := forkStory
  dictionary := .blank
  location := ⟨"main", none⟩
  namingPattern := LegalPattern.defaultNaming

/-- The context of the first task. -/
def patrol : Context where
  focus := .component ⟨⟨2⟩, "Patrol", some ⟨1⟩, .task { successors := [⟨3⟩, ⟨4⟩] }⟩

/-- The ranges of the two tasks that follow the first. -/
theorem patrol_shares_chances :
    resolve forkSetting [.series "childrenNodes" ", " {} false chanceRange] patrol
      { reserved := [], maxAttempts := 1 } = .ok "0-30, 30-100" { reserved := [], maxAttempts := 1 } := by
  have small : forkStory.chancesBefore [⟨3⟩, ⟨4⟩] 2 < UInt32.size := by decide
  have tasks : ∀ id ∈ [ComponentId.mk 3, ⟨4⟩], ∃ successor own,
      forkSetting.model.component? id = some successor ∧ successor.task? = some own := by
    intro id hid
    rcases List.mem_pair.1 hid with rfl | rfl
    · exact ⟨⟨⟨3⟩, "Rest", some ⟨1⟩, .task { chance := 30 }⟩, { chance := 30 }, by decide, rfl⟩
    · exact ⟨⟨⟨4⟩, "Shout", some ⟨1⟩, .task { chance := 70 }⟩, { chance := 70 }, by decide, rfl⟩
  obtain ⟨-, -, -, ranges, -⟩ := successors_share_chances (s := forkSetting) (c := patrol) (by decide) rfl rfl small none
    { reserved := [], maxAttempts := 1 }
  obtain ⟨-, rendered⟩ := ranges (by decide) tasks
  exact (rendered ", ").trans (congrArg (EStateM.Result.ok · _) (by decide +kernel))

end StoryLoom
