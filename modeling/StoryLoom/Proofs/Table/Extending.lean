import StoryLoom.Table

/-!
# Extending — a table with all pairs of a second one

- `ext_get?`   : a table is known by its keys in their order and by what it answers
- `get?_extend`: an extended table answers with the second one first

The order of the keys is treated apart from the answers: new keys come behind the old ones, whatever they
stand for.
-/

namespace StoryLoom
namespace Table

variable {κ α : Type} [DecidableEq κ]

/-- With the same keys in order, what is found decides the pairs. -/
theorem eq_of_lookup {l m : List (κ × α)} (distinct : (l.map Prod.fst).Nodup)
    (keys : l.map Prod.fst = m.map Prod.fst) (answers : ∀ k, lookup l k = lookup m k) : l = m := by
  induction l generalizing m with
  | nil => exact (List.map_eq_nil_iff.1 keys.symm).symm
  | cons p rest ih =>
    cases m with
    | nil => cases keys
    | cons q others =>
      rcases p with ⟨k, v⟩
      rcases q with ⟨k', w⟩
      simp only [List.map_cons, List.cons.injEq] at keys
      rcases keys with ⟨rfl, keys⟩
      rw [List.map_cons, List.nodup_cons] at distinct
      have here : v = w := by simpa [lookup] using answers k
      have later : ∀ k', lookup rest k' = lookup others k' := by
        intro k'
        by_cases first : k = k'
        · -- The key of the first pair occurs in neither rest.
          subst first
          have absent : lookup rest k = none := lookup_eq_none_iff.2 distinct.1
          have absent' : lookup others k = none := lookup_eq_none_iff.2 (keys ▸ distinct.1)
          rw [absent, absent']
        · simpa [lookup, first] using answers k'
      rw [here, ih distinct.2 keys later]

/-- A table is known by its keys in their order and by what it answers. -/
theorem ext_get? {s t : Table κ α} (keys : s.keys = t.keys) (answers : ∀ k, s.get? k = t.get? k) :
    s = t :=
  ext_entries (eq_of_lookup s.keys_nodup keys answers)

/-- Pairs put in together are found before what was there. -/
theorem get?_insertAll {pairs : List (κ × α)} (distinct : (pairs.map Prod.fst).Nodup) (t : Table κ α)
    (k : κ) : (t.insertAll pairs).get? k = (lookup pairs k).or (t.get? k) := by
  induction pairs generalizing t with
  | nil => rfl
  | cons p rest ih =>
    rcases p with ⟨key, value⟩
    rw [List.map_cons, List.nodup_cons] at distinct
    have step : (t.insertAll ((key, value) :: rest)).get? k =
        (lookup rest k).or (if k = key then some value else t.get? k) := by
      rw [← get?_insert]
      exact ih distinct.2 (t.insert key value)
    by_cases first : key = k
    · subst first
      have absent : lookup rest key = none := lookup_eq_none_iff.2 distinct.1
      rw [step, absent]
      simp [lookup]
    · rw [step, if_neg (Ne.symm first)]
      simp [lookup, first]

/-- An extended table answers with the second one first. -/
theorem get?_extend (t u : Table κ α) (k : κ) : (t.extend u).get? k = (u.get? k).or (t.get? k) :=
  get?_insertAll u.keys_nodup t k

end Table
end StoryLoom
