import Mathlib.Data.List.Perm.Subperm
import StoryLoom.Story.OwnerChain

/-!
# Enclosing — where the search along an owner chain ends

- `chainAt?`  : the component at a place of an owner chain
- `chain`     : the components at its first places
- `FirstAt`   : the first component of the chain with a property
- `Answers`   : the answers that a search may give
- `Passing`   : what is known of the numbers that a search has passed
- `Turns`     : the turns that a search takes, one for each component it looks at
- `enclosing_finds_first` : the search ends, with the first component that has a property

A chain ends at a component without an owner or at a number that stands for nothing, or it goes round for ever.
The search gives up at the first number that it passed before. From there on the chain repeats what was passed,
and nothing of that has the property.
-/

namespace StoryLoom
namespace StoryModel

/-! ## Chains -/

/-- The component at a place of the owner chain of `id`: its own component first, then the owner of the one
before. -/
def chainAt? (m : StoryModel) (id : ComponentId) : Nat → Option Component
  | 0 => m.component? id
  | place + 1 => (m.chainAt? id place).bind fun c => c.owner.bind m.component?

/-- The components at the first places of the owner chain. -/
def chain (m : StoryModel) (id : ComponentId) (count : Nat) : List Component :=
  (List.range count).filterMap (m.chainAt? id)

variable {m : StoryModel} {id : ComponentId} {holds : Component → Bool} {c : Component}

theorem chainAt?_of_owner {place : Nat} {owner : ComponentId} (here : m.chainAt? id place = some c)
    (owned : c.owner = some owner) : m.chainAt? id (place + 1) = m.component? owner := by
  rw [chainAt?, here, Option.bind_some, owned, Option.bind_some]

theorem chainAt?_of_no_owner {place : Nat} (here : m.chainAt? id place = some c) (top : c.owner = none) :
    m.chainAt? id (place + 1) = none := by
  rw [chainAt?, here, Option.bind_some, top, Option.bind_none]

/-- Nothing comes behind the end of a chain. -/
theorem chainAt?_behind_end {place : Nat} (ended : m.chainAt? id place = none) (more : Nat) :
    m.chainAt? id (place + more) = none := by
  induction more with
  | zero => exact ended
  | succ more ih => rw [← Nat.add_assoc, chainAt?, ih, Option.bind_none]

/-- A chain that comes back to a place goes on from there as before. -/
theorem chainAt?_repeats {place later : Nat} (same : m.chainAt? id later = m.chainAt? id place) (more : Nat) :
    m.chainAt? id (later + more) = m.chainAt? id (place + more) := by
  induction more with
  | zero => exact same
  | succ more ih => rw [← Nat.add_assoc, ← Nat.add_assoc, chainAt?, chainAt?, ih]

/-- Where a chain comes back to a place before which nothing has the property, nothing ever has. -/
theorem refused_of_repeats {place later : Nat} (before : place < later)
    (same : m.chainAt? id later = m.chainAt? id place)
    (refused : ∀ n < later, ∀ d, m.chainAt? id n = some d → holds d = false) :
    ∀ n d, m.chainAt? id n = some d → holds d = false := by
  intro n
  induction n using Nat.strongRecOn with
  | ind n ih =>
    intro d found
    by_cases early : n < later
    · exact refused n early d found
    · -- Such a place shows what an earlier one shows, one turn back.
      have turn : n = later + (n - later) := by omega
      rw [turn, chainAt?_repeats same] at found
      exact ih (place + (n - later)) (by omega) d found

/-- What stands on a chain is a component of the story. -/
theorem component?_of_chainAt? {place : Nat} (here : m.chainAt? id place = some c) :
    ∃ number, m.component? number = some c := by
  cases place with
  | zero => exact ⟨id, here⟩
  | succ place =>
    obtain ⟨d, -, owned⟩ := Option.bind_eq_some_iff.1 here
    obtain ⟨owner, -, found⟩ := Option.bind_eq_some_iff.1 owned
    exact ⟨owner, found⟩

/-! ## Answers -/

/-- The component at a place has the property, and none before it has. -/
structure FirstAt (m : StoryModel) (id : ComponentId) (holds : Component → Bool) (place : Nat)
    (c : Component) : Prop where
  here : m.chainAt? id place = some c
  satisfied : holds c = true
  earlier : ∀ before < place, ∀ d, m.chainAt? id before = some d → holds d = false

/-- The first component with a property is one only. -/
theorem FirstAt.unique {place place' : Nat} {c' : Component} (h : m.FirstAt id holds place c)
    (h' : m.FirstAt id holds place' c') : c = c' := by
  rcases Nat.lt_trichotomy place place' with before | rfl | behind
  · exact absurd h.satisfied (by simp [h'.earlier place before c h.here])
  · exact Option.some.inj (h.here.symm.trans h'.here)
  · exact absurd h'.satisfied (by simp [h.earlier place' behind c' h'.here])

/-- The answers that a search may give: the first component with the property, which stands at one of as many
places as there are components, or none, where no component of the chain has it. -/
inductive Answers (m : StoryModel) (id : ComponentId) (holds : Component → Bool) :
    Option Component → Prop where
  | found {place : Nat} {c : Component} (within : place < m.components.size)
      (first : m.FirstAt id holds place c) : Answers m id holds (some c)
  | nowhere (refused : ∀ place c, m.chainAt? id place = some c → holds c = false) : Answers m id holds none

namespace Answers

variable {answer : Option Component}

/-- The answer is the first on the chain for which the test holds. -/
theorem eq_some_iff (h : m.Answers id holds answer) :
    answer = some c ↔ ∃ place, m.FirstAt id holds place c := by
  cases h with
  | found within first =>
    constructor
    · intro same
      cases same
      exact ⟨_, first⟩
    · rintro ⟨place, other⟩
      rw [first.unique other]
  | nowhere refused =>
    constructor
    · nofun
    · rintro ⟨place, first⟩
      exact absurd first.satisfied (by simp [refused place c first.here])

/-- There is none exactly if the test holds for no one on the chain. -/
theorem eq_none_iff (h : m.Answers id holds answer) :
    answer = none ↔ ∀ place c, m.chainAt? id place = some c → holds c = false := by
  cases h with
  | found within first =>
    constructor
    · nofun
    · intro refused
      exact absurd first.satisfied (by simp [refused _ _ first.here])
  | nowhere refused => exact iff_of_true rfl refused

/-- A search through as many places as there are components gives the same answer. -/
theorem eq_find? (h : m.Answers id holds answer) : answer = (m.chain id m.components.size).find? holds := by
  rw [chain, List.find?_filterMap]
  -- The chain has no component in a place behind its end, so places without one are passed over.
  cases h with
  | @found place c within first =>
    have met : (List.range m.components.size).find? (fun n => (m.chainAt? id n).any holds) = some place := by
      refine List.find?_range_eq_some.2 ⟨?_, List.mem_range.2 within, ?_⟩
      · rw [first.here]
        exact first.satisfied
      · intro before lt
        cases found : m.chainAt? id before with
        | none => rfl
        | some d => simp [first.earlier before lt d found]
    rw [met, Option.bind_some, first.here]
  | nowhere refused =>
    have unmet : (List.range m.components.size).find? (fun n => (m.chainAt? id n).any holds) = none := by
      refine List.find?_range_eq_none.2 ?_
      intro place _
      cases found : m.chainAt? id place with
      | none => rfl
      | some d => simp [refused place d found]
    rw [unmet, Option.bind_none]

end Answers

/-! ## What a search has passed -/

/-- What a search knows of the numbers it has passed: they are those of the first places of the chain, all
different, and no component there has the property. -/
structure Passing (m : StoryModel) (id : ComponentId) (holds : Component → Bool)
    (passed : List ComponentId) : Prop where
  distinct : passed.Nodup
  walked : ∀ number ∈ passed, ∃ place < passed.length, ∃ c, m.chainAt? id place = some c ∧ c.id = number
  refused : ∀ place < passed.length, ∀ c, m.chainAt? id place = some c → holds c = false

/-- The turns that a search takes to its answer: each looks at one component. -/
inductive Turns (m : StoryModel) (holds : Component → Bool) :
    List ComponentId → ComponentId → Nat → Option Component → Prop where
  | lost {passed : List ComponentId} {current : ComponentId} (absent : m.component? current = none) :
      Turns m holds passed current 0 none
  | met {passed : List ComponentId} {current : ComponentId} {c : Component}
      (found : m.component? current = some c) (satisfied : holds c = true) :
      Turns m holds passed current 1 (some c)
  | seen {passed : List ComponentId} {current : ComponentId} {c : Component}
      (found : m.component? current = some c) (refused : holds c = false) (again : c.id ∈ passed) :
      Turns m holds passed current 1 none
  | top {passed : List ComponentId} {current : ComponentId} {c : Component}
      (found : m.component? current = some c) (refused : holds c = false) (new : c.id ∉ passed)
      (unowned : c.owner = none) : Turns m holds passed current 1 none
  | up {passed : List ComponentId} {current owner : ComponentId} {c : Component} {turns : Nat}
      {answer : Option Component} (found : m.component? current = some c) (refused : holds c = false)
      (new : c.id ∉ passed) (owned : c.owner = some owner)
      (later : Turns m holds (c.id :: passed) owner turns answer) :
      Turns m holds passed current (turns + 1) answer

variable {passed : List ComponentId}

namespace Passing

/-- At the start nothing was passed. -/
theorem start : m.Passing id holds [] :=
  ⟨List.nodup_nil, nofun, nofun⟩

/-- One turn of a search: a component without the property, whose number is new, is passed. -/
theorem step (h : m.Passing id holds passed) (here : m.chainAt? id passed.length = some c)
    (new : c.id ∉ passed) (there : holds c = false) : m.Passing id holds (c.id :: passed) := by
  refine ⟨List.nodup_cons.2 ⟨new, h.distinct⟩, ?_, ?_⟩
  · intro number hn
    rcases List.mem_cons.1 hn with rfl | old
    · exact ⟨passed.length, Nat.lt_succ_self _, c, here, rfl⟩
    · obtain ⟨place, before, d, found, same⟩ := h.walked number old
      exact ⟨place, Nat.lt_succ_of_lt before, d, found, same⟩
  · intro place before d found
    rcases Nat.lt_succ_iff_lt_or_eq.1 before with earlier | rfl
    · exact h.refused place earlier d found
    · cases here.symm.trans found
      exact there

/-- Where the chain ends, no component of it has the property. -/
theorem refused_of_ended (h : m.Passing id holds passed) (ended : m.chainAt? id passed.length = none) :
    ∀ place d, m.chainAt? id place = some d → holds d = false := by
  intro place d found
  by_cases before : place < passed.length
  · exact h.refused place before d found
  · obtain ⟨more, rfl⟩ := Nat.exists_eq_add_of_le (Nat.le_of_not_lt before)
    rw [chainAt?_behind_end ended more] at found
    cases found

end Passing

section Keyed

/- From here on components carry the numbers they are stored under, so those with one number are one. -/
variable (keyed : ∀ e ∈ m.components.entries, e.2.id = e.1)

include keyed

/-- The components of a chain are found under their own numbers. -/
theorem component?_id_of_chainAt? {place : Nat} (here : m.chainAt? id place = some c) :
    m.component? c.id = some c := by
  obtain ⟨number, found⟩ := component?_of_chainAt? here
  have own : c.id = number := keyed (number, c) (Table.get?_eq_some_iff.1 found)
  rwa [own]

/-- Different numbers of a chain are no more than there are components. -/
theorem length_le_size_of_walked (id : ComponentId) {numbers : List ComponentId} (distinct : numbers.Nodup)
    (walked : ∀ number ∈ numbers, ∃ place c, m.chainAt? id place = some c ∧ c.id = number) :
    numbers.length ≤ m.components.size := by
  have stored : numbers ⊆ m.components.keys := by
    intro number hn
    obtain ⟨place, c, here, rfl⟩ := walked number hn
    exact List.mem_map_of_mem (f := Prod.fst) (Table.get?_eq_some_iff.1 (component?_id_of_chainAt? keyed here))
  calc
    numbers.length ≤ m.components.keys.length := (List.subperm_of_subset distinct stored).length_le
    _ = m.components.size := List.length_map _

namespace Passing

/-- Where the search meets a number again, no component of the chain has the property. -/
theorem refused_of_seen (h : m.Passing id holds passed) (here : m.chainAt? id passed.length = some c)
    (seen : c.id ∈ passed) : ∀ place d, m.chainAt? id place = some d → holds d = false := by
  obtain ⟨place, before, d, found, same⟩ := h.walked c.id seen
  have again : d = c := by
    have twin := component?_id_of_chainAt? keyed found
    rw [same, component?_id_of_chainAt? keyed here] at twin
    exact (Option.some.inj twin).symm
  subst again
  exact refused_of_repeats before (here.trans found.symm) h.refused

/-- No more numbers are passed than there are components. -/
theorem length_le_size (h : m.Passing id holds passed) : passed.length ≤ m.components.size := by
  refine length_le_size_of_walked keyed id h.distinct ?_
  intro number hn
  obtain ⟨place, -, found⟩ := h.walked number hn
  exact ⟨place, found⟩

/-- While numbers are new, fewer are passed. -/
theorem length_lt_size (h : m.Passing id holds passed) (here : m.chainAt? id passed.length = some c)
    (new : c.id ∉ passed) : passed.length < m.components.size := by
  refine length_le_size_of_walked keyed id (List.nodup_cons.2 ⟨new, h.distinct⟩) ?_
  intro number hn
  rcases List.mem_cons.1 hn with rfl | old
  · exact ⟨passed.length, c, here, rfl⟩
  · obtain ⟨place, -, found⟩ := h.walked number old
    exact ⟨place, found⟩

/-- Whatever a search has passed, it goes on to an answer. -/
theorem answers {current : ComponentId} (h : m.Passing id holds passed)
    (here : m.chainAt? id passed.length = m.component? current) :
    m.Answers id holds (m.enclosingFrom holds passed current) := by
  fun_induction enclosingFrom m holds passed current with
  | case1 passed current absent => exact .nowhere (h.refused_of_ended (here.trans absent))
  | case2 passed current c found satisfied =>
    have place := here.trans found
    -- What was passed lacks the property, so this number is new.
    have new : c.id ∉ passed := by
      intro seen
      have lacks := h.refused_of_seen keyed place seen passed.length c place
      rw [satisfied] at lacks
      cases lacks
    exact .found (h.length_lt_size keyed place new) ⟨place, satisfied, h.refused⟩
  | case3 passed current c found there seen =>
    exact .nowhere (h.refused_of_seen keyed (here.trans found) seen)
  | case4 passed current c found there new top =>
    have place := here.trans found
    have next := h.step place new (eq_false_of_ne_true there)
    exact .nowhere (next.refused_of_ended (chainAt?_of_no_owner place top))
  | case5 passed current c found there new owner above ih =>
    have place := here.trans found
    exact ih (h.step place new (eq_false_of_ne_true there)) (chainAt?_of_owner place above)

/-- A search takes one turn for each number that it may still pass, and at most one more. -/
theorem turns {current : ComponentId} (h : m.Passing id holds passed)
    (here : m.chainAt? id passed.length = m.component? current) :
    ∃ turns, m.Turns holds passed current turns (m.enclosingFrom holds passed current) ∧
      passed.length + turns ≤ m.components.size + 1 := by
  have few : passed.length + 1 ≤ m.components.size + 1 := Nat.succ_le_succ (h.length_le_size keyed)
  fun_induction enclosingFrom m holds passed current with
  | case1 passed current absent => exact ⟨0, .lost absent, Nat.le_of_succ_le few⟩
  | case2 passed current c found satisfied => exact ⟨1, .met found satisfied, few⟩
  | case3 passed current c found there seen => exact ⟨1, .seen found (eq_false_of_ne_true there) seen, few⟩
  | case4 passed current c found there new top =>
    exact ⟨1, .top found (eq_false_of_ne_true there) new top, few⟩
  | case5 passed current c found there new owner above ih =>
    have place := here.trans found
    have next := h.step place new (eq_false_of_ne_true there)
    obtain ⟨turns, later, bound⟩ :=
      ih next (chainAt?_of_owner place above) (Nat.succ_le_succ (next.length_le_size keyed))
    rw [List.length_cons] at bound
    exact ⟨turns + 1, .up found (eq_false_of_ne_true there) new above later, by omega⟩

end Passing

end Keyed

/-- Where components carry the numbers they are stored under, the search finds the first component of the
owner chain with a property. It finds none just if no component of the chain has it, wherever the chain leads.
As many places as there are components decide this, and it takes no more than one turn beyond that. -/
theorem enclosing_finds_first (m : StoryModel) (keyed : ∀ e ∈ m.components.entries, e.2.id = e.1)
    (id : ComponentId) (holds : Component → Bool) :
    (∀ c, m.enclosing? id holds = some c ↔ ∃ place, m.FirstAt id holds place c) ∧
    (m.enclosing? id holds = none ↔ ∀ place c, m.chainAt? id place = some c → holds c = false) ∧
    m.enclosing? id holds = (m.chain id m.components.size).find? holds ∧
    ∃ turns ≤ m.components.size + 1, m.Turns holds [] id turns (m.enclosing? id holds) := by
  have begun : m.Passing id holds [] := Passing.start
  have answers : m.Answers id holds (m.enclosing? id holds) := begun.answers keyed rfl
  obtain ⟨turns, ends, bound⟩ := begun.turns keyed rfl
  rw [List.length_nil, Nat.zero_add] at bound
  exact ⟨fun c => answers.eq_some_iff, answers.eq_none_iff, answers.eq_find?, turns, bound, ends⟩

/-- A chain that goes round: the second and the third component own each other. -/
def ring : StoryModel where
  root := ⟨0⟩
  components := .ofList
    [(⟨0⟩, ⟨⟨0⟩, "Start", some ⟨1⟩, .note⟩), (⟨1⟩, ⟨⟨1⟩, "Box", some ⟨2⟩, .container []⟩),
      (⟨2⟩, ⟨⟨2⟩, "Opened", some ⟨1⟩, .scriptIt { role := .cause }⟩)]

/-- The cause on the ring is found from outside, and a story point is nowhere on it. -/
theorem ring_searched :
    (∀ e ∈ ring.components.entries, e.2.id = e.1) ∧
      ring.enclosing? ⟨0⟩ Component.isCause =
        some ⟨⟨2⟩, "Opened", some ⟨1⟩, .scriptIt { role := .cause }⟩ ∧
      ∀ place c, ring.chainAt? ⟨0⟩ place = some c → c.storyPoint?.isSome = false := by
  have keyed : ∀ e ∈ ring.components.entries, e.2.id = e.1 := by decide
  obtain ⟨first, -, -, -⟩ := enclosing_finds_first ring keyed ⟨0⟩ Component.isCause
  obtain ⟨-, nowhere, within, -⟩ := enclosing_finds_first ring keyed ⟨0⟩ fun c => c.storyPoint?.isSome
  refine ⟨keyed, (first _).2 ⟨2, rfl, rfl, ?_⟩, nowhere.1 (within.trans (by decide))⟩
  intro before lt d found
  -- Two components come before the cause.
  obtain rfl | rfl : before = 0 ∨ before = 1 := by omega
  · cases found
    rfl
  · cases found
    rfl

/-- A search that meets two components with one number stops at the second, short of the cause above it. -/
example :
    let stray : StoryModel :=
      { root := ⟨0⟩
        components := .ofList
          [(⟨0⟩, ⟨⟨0⟩, "Start", some ⟨1⟩, .note⟩), (⟨1⟩, ⟨⟨0⟩, "Copy", some ⟨2⟩, .note⟩),
            (⟨2⟩, ⟨⟨2⟩, "Opened", none, .scriptIt { role := .cause }⟩)] }
    stray.enclosing? ⟨0⟩ Component.isCause = none := by
  cbv

end StoryModel
end StoryLoom
