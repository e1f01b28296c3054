import Mathlib.Data.List.Forall2

/-!
# Results — computations that may fail, one after another

- `bind_eq_ok_iff`  : a sequence succeeds where its parts do
- `forM_eq_ok_iff`  : a check of all elements succeeds where each does
- `mapM_eq_ok_of_forall`, `mapM_eq_error_of_mem` : what comes of all elements, or why nothing does
- `forall₂_of_mapM_eq_ok` : each result is that of the element in its place
-/

namespace StoryLoom
namespace Results

variable {ε α β : Type}

theorem exists_of_isOk {x : Except ε α} (h : x.isOk = true) : ∃ a, x = .ok a := by
  cases x with
  | error e => cases h
  | ok a => exact ⟨a, rfl⟩

theorem toOption_mapError {δ : Type} (g : ε → δ) (x : Except ε β) :
    (x.mapError g).toOption = x.toOption := by
  cases x <;> rfl

/-- A step after another succeeds where both do. -/
theorem bind_eq_ok_iff {x : Except ε α} {f : α → Except ε β} {b : β} :
    (x >>= f) = .ok b ↔ ∃ a, x = .ok a ∧ f a = .ok b := by
  cases x <;> simp [bind, Except.bind]

/-- A loop passes where every round does. -/
theorem forM_eq_ok_iff {f : α → Except ε Unit} {l : List α} :
    l.forM f = .ok () ↔ ∀ a ∈ l, f a = .ok () := by
  induction l with
  | nil => exact ⟨nofun, fun _ => rfl⟩
  | cons a rest ih =>
    constructor
    · intro h
      obtain ⟨⟨⟩, first, others⟩ := bind_eq_ok_iff.1 h
      exact List.forall_mem_cons.2 ⟨first, ih.1 others⟩
    · intro h
      obtain ⟨first, others⟩ := List.forall_mem_cons.1 h
      exact bind_eq_ok_iff.2 ⟨(), first, ih.2 others⟩

variable {f : α → Except ε β} {l : List α}

/-- Where every result is a value, their list is. -/
theorem mapM_eq_ok_of_forall (h : ∀ a ∈ l, ∃ b, f a = .ok b) :
    l.mapM f = .ok (l.filterMap fun a => (f a).toOption) := by
  induction l with
  | nil => rfl
  | cons a rest ih =>
    rcases h a List.mem_cons_self with ⟨b, first⟩
    have later := ih fun c hc => h c (List.mem_cons_of_mem a hc)
    rw [List.mapM_cons, first, later, List.filterMap_cons, first]
    rfl

/-- If one failure is all that can happen and it does, it is the answer. -/
theorem mapM_eq_error_of_mem {e : ε} {a : α} (failed : f a = .error e) (there : a ∈ l)
    (h : ∀ c ∈ l, f c = .error e ∨ ∃ b, f c = .ok b) : l.mapM f = .error e := by
  induction l with
  | nil => cases there
  | cons c rest ih =>
    rw [List.mapM_cons]
    rcases h c List.mem_cons_self with first | ⟨b, first⟩
    · rw [first]
      rfl
    · -- The element that fails comes later, since this one does not.
      have later : a ∈ rest := by
        rcases List.mem_cons.1 there with rfl | later
        · rw [failed] at first
          cases first
        · exact later
      rw [first, ih later fun d hd => h d (List.mem_cons_of_mem c hd)]
      rfl

/-- The values of a list stand in its order. -/
theorem forall₂_of_mapM_eq_ok {r : List β} (h : l.mapM f = .ok r) :
    List.Forall₂ (fun a b => f a = .ok b) l r := by
  induction l generalizing r with
  | nil =>
    cases h
    exact .nil
  | cons a rest ih =>
    rw [List.mapM_cons] at h
    obtain ⟨b, first, h⟩ := bind_eq_ok_iff.1 h
    obtain ⟨bs, others, h⟩ := bind_eq_ok_iff.1 h
    cases h
    exact .cons first (ih others)

end Results
end StoryLoom
