import Mathlib.Data.List.Basic

/-!
# EraseDups — lists from which repetitions are dropped

- `mem_eraseDupsBy_of_eq` : nothing is lost where only equal elements count as a repetition
- `pairwise_eraseDupsBy`  : nothing that is left repeats an earlier element
- `eraseDupsBy_concat`    : what one more element adds
- `filter_eraseDupsBy`, `find?_eraseDupsBy` : what all that repeat each other share decides alike before and
  after
- `pairwise_findIdx_eraseDups` : what is left stands in the order of first occurrence
-/

namespace StoryLoom
namespace EraseDups

variable {α β : Type}

/-- Nothing is made up. -/
theorem mem_of_mem_eraseDupsBy {r : α → α → Bool} {a : α} :
    ∀ {l : List α}, a ∈ l.eraseDupsBy r → a ∈ l
  | [], h => h
  | b :: rest, h => by
    have shorter : (rest.filter fun c => !r c b).length < rest.length + 1 :=
      Nat.lt_succ_of_le (List.length_filter_le _ rest)
    rw [List.eraseDupsBy_cons] at h
    rcases List.mem_cons.1 h with rfl | later
    · exact List.mem_cons_self
    · have kept := mem_of_mem_eraseDupsBy later
      exact List.mem_cons_of_mem b (List.mem_filter.1 kept).1
termination_by l => l.length

/-- Nothing is lost where only equal elements count as a repetition. -/
theorem mem_eraseDupsBy_of_eq {r : α → α → Bool} {a : α} :
    ∀ {l : List α}, (∀ b ∈ l, ∀ c ∈ l, r b c = true → b = c) → a ∈ l → a ∈ l.eraseDupsBy r
  | [], _, h => h
  | b :: rest, same, h => by
    have shorter : (rest.filter fun c => !r c b).length < rest.length + 1 :=
      Nat.lt_succ_of_le (List.length_filter_le _ rest)
    rw [List.eraseDupsBy_cons]
    by_cases repeated : r a b = true
    · rw [same a h b List.mem_cons_self repeated]
      exact List.mem_cons_self
    · rcases List.mem_cons.1 h with rfl | later
      · exact List.mem_cons_self
      · have kept : a ∈ rest.filter fun c => r c b = false :=
          List.mem_filter.2 ⟨later, by simpa using repeated⟩
        refine List.mem_cons_of_mem b (mem_eraseDupsBy_of_eq ?_ kept)
        intro c hc d hd
        exact same c (List.mem_cons_of_mem b (List.mem_filter.1 hc).1) d
          (List.mem_cons_of_mem b (List.mem_filter.1 hd).1)
termination_by l => l.length

/-- Nothing that is left repeats an earlier element. -/
theorem pairwise_eraseDupsBy (r : α → α → Bool) :
    ∀ l : List α, (l.eraseDupsBy r).Pairwise fun a b => r b a = false
  | [] => .nil
  | a :: rest => by
    have shorter : (rest.filter fun c => !r c a).length < rest.length + 1 :=
      Nat.lt_succ_of_le (List.length_filter_le _ rest)
    rw [List.eraseDupsBy_cons]
    refine List.pairwise_cons.2 ⟨?_, pairwise_eraseDupsBy r _⟩
    intro b hb
    have kept := (List.mem_filter.1 (mem_of_mem_eraseDupsBy hb)).2
    exact of_decide_eq_true kept
termination_by l => l.length

/-- No element is left twice. -/
theorem nodup_eraseDups [BEq α] [LawfulBEq α] (l : List α) : l.eraseDups.Nodup := by
  refine (pairwise_eraseDupsBy _ l).imp ?_
  rintro a b apart rfl
  exact absurd apart (by simp)

/-- Elements are dropped, and the order stays. -/
theorem sublist_eraseDupsBy (r : α → α → Bool) : ∀ l : List α, (l.eraseDupsBy r).Sublist l
  | [] => .slnil
  | a :: rest => by
    have shorter : (rest.filter fun c => !r c a).length < rest.length + 1 :=
      Nat.lt_succ_of_le (List.length_filter_le _ rest)
    rw [List.eraseDupsBy_cons]
    exact ((sublist_eraseDupsBy r _).trans List.filter_sublist).cons_cons a
termination_by l => l.length

/-- Where nothing repeats an earlier element, nothing is dropped. -/
theorem eraseDupsBy_of_pairwise {r : α → α → Bool} {l : List α} (h : l.Pairwise fun a b => r b a = false) :
    l.eraseDupsBy r = l := by
  induction h with
  | nil => rfl
  | @cons a rest apart _ ih =>
    have others : rest.filter (fun b => r b a = false) = rest :=
      List.filter_eq_self.2 fun b hb => decide_eq_true (apart b hb)
    rw [List.eraseDupsBy_cons, others, ih]

/-- One more element is left if it repeats nothing that is left, and is dropped otherwise. -/
theorem eraseDupsBy_concat (r : α → α → Bool) (a : α) : ∀ l : List α, (l ++ [a]).eraseDupsBy r =
    if (l.eraseDupsBy r).any (r a) then l.eraseDupsBy r else l.eraseDupsBy r ++ [a]
  | [] => rfl
  | b :: rest => by
    have shorter : (rest.filter fun c => !r c b).length < rest.length + 1 :=
      Nat.lt_succ_of_le (List.length_filter_le _ rest)
    rw [List.cons_append, List.eraseDupsBy_cons, List.eraseDupsBy_cons, List.filter_append, List.any_cons]
    cases repeated : r a b with
    | true =>
      have dropped : [a].filter (fun c => r c b = false) = [] := by simp [repeated]
      rw [dropped, List.append_nil, Bool.true_or, if_pos rfl]
    | false =>
      have kept : [a].filter (fun c => r c b = false) = [a] := by simp [repeated]
      rw [kept, Bool.false_or, eraseDupsBy_concat r a (rest.filter _)]
      split <;> rfl
termination_by l => l.length

/-- What is left of a beginning stands at the beginning of what is left. -/
theorem prefix_eraseDupsBy (r : α → α → Bool) (l later : List α) :
    l.eraseDupsBy r <+: (l ++ later).eraseDupsBy r := by
  induction later generalizing l with
  | nil => simp only [List.append_nil, List.prefix_rfl]
  | cons a rest ih =>
    have next : l.eraseDupsBy r <+: (l ++ [a]).eraseDupsBy r := by
      rw [eraseDupsBy_concat]
      split
      · exact List.prefix_rfl
      · exact List.prefix_append _ _
    rw [List.append_cons]
    exact next.trans (ih _)

section Alike

variable {r : α → α → Bool} {p : α → Bool}

/-- A property that all that repeat each other share can be filtered by before or after. -/
theorem filter_eraseDupsBy : ∀ {l : List α}, (∀ a ∈ l, ∀ b ∈ l, r a b = true → p a = p b) →
    (l.eraseDupsBy r).filter p = (l.filter p).eraseDupsBy r
  | [], _ => rfl
  | a :: rest, alike => by
    have shorter : (rest.filter fun c => !r c a).length < rest.length + 1 :=
      Nat.lt_succ_of_le (List.length_filter_le _ rest)
    have ih : ((rest.filter fun b => r b a = false).eraseDupsBy r).filter p =
        ((rest.filter fun b => r b a = false).filter p).eraseDupsBy r := by
      refine filter_eraseDupsBy fun b hb c hc => ?_
      exact alike b (List.mem_cons_of_mem a (List.mem_filter.1 hb).1) c
        (List.mem_cons_of_mem a (List.mem_filter.1 hc).1)
    rw [List.eraseDupsBy_cons, List.filter_cons, List.filter_cons, ih, List.filter_comm]
    cases here : p a with
    | true => rw [if_pos rfl, if_pos rfl, List.eraseDupsBy_cons]
    | false =>
      -- What repeats the first element is filtered out with it.
      have others : (rest.filter p).filter (fun b => r b a = false) = rest.filter p := by
        refine List.filter_eq_self.2 fun b hb => ?_
        obtain ⟨later, passes⟩ := List.mem_filter.1 hb
        refine decide_eq_true (Bool.eq_false_iff.2 fun repeats => ?_)
        have same := alike b (List.mem_cons_of_mem a later) a List.mem_cons_self repeats
        rw [passes, here] at same
        cases same
      rw [others]
      rfl
termination_by l => l.length

/-- The first element with a property that all that repeat each other share is left. -/
theorem find?_eraseDupsBy {l : List α} (alike : ∀ a ∈ l, ∀ b ∈ l, r a b = true → p a = p b) :
    (l.eraseDupsBy r).find? p = l.find? p := by
  rw [← List.head?_filter, ← List.head?_filter, filter_eraseDupsBy alike]
  cases l.filter p with
  | nil => rfl
  | cons a rest => rw [List.eraseDupsBy_cons, List.head?_cons, List.head?_cons]

end Alike

/-- What is left stands in the order of first occurrence. -/
theorem pairwise_findIdx_eraseDups [DecidableEq β] (f : α → Option β) (l : List α) :
    (l.filterMap f).eraseDups.Pairwise fun a b =>
      l.findIdx (fun x => f x = some a) < l.findIdx (fun x => f x = some b) := by
  induction l generalizing f with
  | nil => exact List.Pairwise.nil
  | cons x rest ih =>
    have shift : ∀ {b}, f x ≠ some b → (x :: rest).findIdx (fun y => f y = some b) =
        rest.findIdx (fun y => f y = some b) + 1 := by
      intro b other
      rw [List.findIdx_cons, decide_eq_false other]
      rfl
    cases first : f x with
    | none =>
      rw [List.filterMap_cons_none first]
      refine (ih f).imp ?_
      intro a b before
      rw [shift (by simp [first]), shift (by simp [first])]
      exact Nat.succ_lt_succ before
    | some c =>
      rw [List.filterMap_cons_some first, List.eraseDups_cons]
      -- Behind the first element stand those of the rest that differ from it.
      let others : α → Option β := fun y => (f y).filter fun b => !b == c
      have behind : (rest.filterMap f).filter (fun b => !b == c) = rest.filterMap others := by
        rw [List.filter_filterMap]
      have others_iff : ∀ {y b}, others y = some b ↔ f y = some b ∧ b ≠ c := by
        intro y b
        simp [others, Option.filter_eq_some_iff]
      have differs : ∀ b ∈ (rest.filterMap others).eraseDups, b ≠ c := by
        intro b hb
        obtain ⟨y, -, hy⟩ := List.mem_filterMap.1 (List.mem_eraseDups.1 hb)
        exact (others_iff.1 hy).2
      have place : ∀ {b}, b ≠ c → (x :: rest).findIdx (fun y => f y = some b) =
          rest.findIdx (fun y => others y = some b) + 1 := by
        intro b other
        rw [shift (by rw [first]; exact fun same => other (Option.some.inj same).symm)]
        have same : (fun y => decide (f y = some b)) = fun y => decide (others y = some b) := by
          funext y
          simp [others_iff, other]
        rw [same]
      rw [behind]
      refine List.pairwise_cons.2 ⟨?_, (ih others).imp_of_mem ?_⟩
      · intro b hb
        rw [place (differs b hb), List.findIdx_cons, decide_eq_true first]
        exact Nat.succ_pos _
      · intro a b ha hb before
        rw [place (differs a ha), place (differs b hb)]
        exact Nat.succ_lt_succ before

end EraseDups
end StoryLoom
