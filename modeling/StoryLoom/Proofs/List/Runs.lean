/-!
# Runs — the runs of a list between the elements that a predicate takes out

- `takeWhile_append_filter_dropWhile` : what is left of a list begins with its first run
- `splitOnP_eq_takeWhile_cons`        : the first part of a split list is its first run
- `flatten_splitOnP`                  : the parts together are what is left
-/

namespace StoryLoom
namespace Runs

variable {α : Type} (p : α → Bool) (l : List α)

/-- Filtering starts with the run of elements that pass. -/
theorem takeWhile_append_filter_dropWhile :
    l.takeWhile p ++ (l.dropWhile p).filter p = l.filter p := by
  induction l with
  | nil => rfl
  | cons a l ih =>
    by_cases h : p a = true
    · simp [h, ih]
    · simp [h]

/-- The first piece of a split list reaches up to the first separator. -/
theorem splitOnP_eq_takeWhile_cons :
    ∃ others, l.splitOnP p = l.takeWhile (fun a => !p a) :: others := by
  induction l with
  | nil => exact ⟨[], List.splitOnP_nil⟩
  | cons a l ih =>
    obtain ⟨others, ih⟩ := ih
    rw [List.splitOnP_cons_eq_if_modifyHead, ih]
    by_cases h : p a = true
    · exact ⟨l.takeWhile (fun a => !p a) :: others, by simp [h]⟩
    · exact ⟨others, by simp [h]⟩

/-- The pieces together are what is no separator. -/
theorem flatten_splitOnP : (l.splitOnP p).flatten = l.filter fun a => !p a := by
  induction l with
  | nil => simp
  | cons a l ih =>
    obtain ⟨others, runs⟩ := splitOnP_eq_takeWhile_cons p l
    rw [List.splitOnP_cons_eq_if_modifyHead]
    by_cases h : p a = true
    · simp [h, ih]
    · rw [runs] at ih ⊢
      rw [List.flatten_cons] at ih
      rw [if_neg h, List.modifyHead_cons, List.flatten_cons, List.cons_append, ih,
        List.filter_cons_of_pos (by simpa using h)]

end Runs
end StoryLoom
