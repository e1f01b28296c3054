import Mathlib.Data.List.Nodup
import Mathlib.Data.List.Pairwise
import StoryLoom.Table

/-!
# Listing — tables whose entries list keys of a table

- `Listing`       : whatever is listed exists and agrees with its lister, and is listed once
- `Answered`      : whatever names an owner is listed by it
- `set_listed`, `add_lister`, `change_lister`, `list_further` : listings are kept when entries are stored
- `add`, `change`, `grow` : the same where a table lists keys of its own
- `nodup_flatMap` : the lists of all entries together have no key twice
- `eq_of_nodup_lists`, `nodup_of_nodup_lists` : what this says of the single lists, for any table

Children, code blocks, variables and replies are all listed in this way, each under an agreement of its
own.
-/

namespace StoryLoom
namespace Table

variable {κ ν α β : Type} [DecidableEq κ] [DecidableEq ν]

/-- The entries of `t` list keys of `u`. All that is listed exists and agrees with its lister; no key is
listed twice. -/
structure Listing (t : Table κ α) (u : Table ν β) (lists : α → List ν)
    (agrees : κ → α → ν → β → Prop) : Prop where
  listed : ∀ {p a x}, t.get? p = some a → x ∈ lists a → ∃ b, u.get? x = some b ∧ agrees p a x b
  once : ∀ {p a}, t.get? p = some a → (lists a).Nodup
  apart : ∀ {p q a c x}, t.get? p = some a → t.get? q = some c → x ∈ lists a → x ∈ lists c → p = q

/-- Every entry of `u` that names an owner in `t` is listed by it. -/
def Answered (t : Table κ α) (u : Table ν β) (lists : α → List ν) (owner : β → Option κ) : Prop :=
  ∀ x b p, u.get? x = some b → owner b = some p → ∃ a, t.get? p = some a ∧ x ∈ lists a

namespace Listing

variable {t : Table κ α} {u : Table ν β} {lists : α → List ν} {agrees : κ → α → ν → β → Prop}
  {p : κ} {a a' : α} {y : ν} {b : β}

/-- An empty table lists nothing. -/
theorem empty (u : Table ν β) (lists : α → List ν) (agrees : κ → α → ν → β → Prop) :
    Listing (Table.empty : Table κ α) u lists agrees where
  listed h := by cases h
  once h := by cases h
  apart h := by cases h

/-- A key without an entry is not listed. -/
theorem not_mem_of_absent (h : Listing t u lists agrees) (absent : u.get? y = none)
    (ha : t.get? p = some a) : y ∉ lists a := by
  intro hy
  obtain ⟨b, hb, -⟩ := h.listed ha hy
  rw [absent] at hb
  cases hb

/-! ### Storing what is listed -/

/-- An entry may be stored that agrees with all that list its key. -/
theorem set_listed (h : Listing t u lists agrees)
    (kept : ∀ p a c, t.get? p = some a → u.get? y = some c → agrees p a y c → agrees p a y b) :
    Listing t (u.insert y b) lists agrees where
  listed := by
    intro p a x ha hx
    obtain ⟨c, hc, agreed⟩ := h.listed ha hx
    by_cases same : x = y
    · subst same
      exact ⟨b, get?_insert_self, kept p a c ha hc agreed⟩
    · refine ⟨c, ?_, agreed⟩
      rw [get?_insert, if_neg same, hc]
  once := h.once
  apart := h.apart

/-- An entry may be stored under a new key. -/
theorem add_listed (h : Listing t u lists agrees) (new : u.get? y = none) :
    Listing t (u.insert y b) lists agrees := by
  apply h.set_listed
  intro p a c ha hc agreed
  rw [new] at hc
  cases hc

/-! ### Storing a lister -/

/-- A lister may be stored that lists what exists, nothing twice and nothing that another one lists. -/
theorem set_lister (h : Listing t u lists agrees)
    (listed : ∀ x ∈ lists a', ∃ b, u.get? x = some b ∧ agrees p a' x b)
    (once : (lists a').Nodup)
    (apart : ∀ q c x, t.get? q = some c → x ∈ lists c → x ∈ lists a' → q = p) :
    Listing (t.insert p a') u lists agrees where
  listed := by
    intro q c x hc hx
    rcases of_get?_insert hc with ⟨rfl, rfl⟩ | ⟨-, hc⟩
    · exact listed x hx
    · exact h.listed hc hx
  once := by
    intro q c hc
    rcases of_get?_insert hc with ⟨rfl, rfl⟩ | ⟨-, hc⟩
    · exact once
    · exact h.once hc
  apart := by
    intro q r c d x hc hd hx hx'
    rcases of_get?_insert hc with ⟨rfl, rfl⟩ | ⟨-, old⟩
    · rcases of_get?_insert hd with ⟨rfl, rfl⟩ | ⟨-, old'⟩
      · rfl
      · exact (apart r d x old' hx' hx).symm
    · rcases of_get?_insert hd with ⟨rfl, rfl⟩ | ⟨-, old'⟩
      · exact apart q c x old hx hx'
      · exact h.apart old old' hx hx'

/-- A lister with an empty list may be stored under a new key. -/
theorem add_lister (h : Listing t u lists agrees) (blank : lists a' = []) :
    Listing (t.insert p a') u lists agrees := by
  apply h.set_lister
  · intro x hx
    rw [blank] at hx
    cases hx
  · rw [blank]
    exact List.nodup_nil
  · intro q c x hc hx hx'
    rw [blank] at hx'
    cases hx'

/-- A lister may change where it keeps its list and what agreed with it. -/
theorem change_lister (h : Listing t u lists agrees) (ha : t.get? p = some a)
    (same : lists a' = lists a) (kept : ∀ x b, agrees p a x b → agrees p a' x b) :
    Listing (t.insert p a') u lists agrees := by
  apply h.set_lister
  · intro x hx
    rw [same] at hx
    obtain ⟨b, hb, agreed⟩ := h.listed ha hx
    exact ⟨b, hb, kept x b agreed⟩
  · rw [same]
    exact h.once ha
  · intro q c x hc hx hx'
    rw [same] at hx'
    exact h.apart hc ha hx hx'

/-- A lister may list one more key, if nobody lists it yet. -/
theorem list_further (h : Listing t u lists agrees) (ha : t.get? p = some a)
    (further : (lists a').Perm (y :: lists a)) (kept : ∀ x b, agrees p a x b → agrees p a' x b)
    (hb : u.get? y = some b) (agreed : agrees p a' y b)
    (unlisted : ∀ q c, t.get? q = some c → y ∉ lists c) :
    Listing (t.insert p a') u lists agrees := by
  apply h.set_lister
  · intro x hx
    rcases List.mem_cons.1 (further.mem_iff.1 hx) with rfl | hx
    · exact ⟨b, hb, agreed⟩
    · obtain ⟨c, hc, agreed'⟩ := h.listed ha hx
      exact ⟨c, hc, kept x c agreed'⟩
  · exact further.nodup_iff.2 (List.nodup_cons.2 ⟨unlisted p a ha, h.once ha⟩)
  · intro q c x hc hx hx'
    rcases List.mem_cons.1 (further.mem_iff.1 hx') with rfl | hx'
    · exact absurd hx (unlisted q c hc)
    · exact h.apart hc ha hx hx'

/-! ### Tables that list keys of their own -/

section Own

variable {t : Table κ α} {lists : α → List κ} {agrees : κ → α → κ → α → Prop} {p y : κ}
  {a a' b : α}

/-- An entry with an empty list may be stored under a new key. -/
theorem add (h : Listing t t lists agrees) (new : t.get? y = none) (blank : lists b = []) :
    Listing (t.insert y b) (t.insert y b) lists agrees :=
  (h.add_listed new).add_lister blank

/-- An entry may change where it keeps its list and what agreed with it. -/
theorem change (h : Listing t t lists agrees) (ha : t.get? p = some a)
    (same : lists a' = lists a) (kept : ∀ x c, agrees p a x c → agrees p a' x c)
    (kept' : ∀ q c, agrees q c p a → agrees q c p a') :
    Listing (t.insert p a') (t.insert p a') lists agrees := by
  refine (h.set_listed ?_).change_lister ha same kept
  intro q c d hc hd agreed
  rw [ha] at hd
  cases hd
  exact kept' q c agreed

/-- An entry with an empty list may be stored under a new key and be listed by another one. -/
theorem grow (h : Listing t t lists agrees) (new : t.get? y = none) (blank : lists b = [])
    (ha : t.get? p = some a) (further : (lists a').Perm (y :: lists a))
    (kept : ∀ x c, agrees p a x c → agrees p a' x c)
    (kept' : ∀ q c, agrees q c p a → agrees q c p a') (agreed : agrees p a' y b) :
    Listing ((t.insert y b).insert p a') ((t.insert y b).insert p a') lists agrees := by
  have old : (t.insert y b).get? p = some a := get?_insert_new new ha
  -- The new entry is listed by an old one, and lists nothing itself.
  have apart : y ≠ p := by
    rintro rfl
    rw [new] at ha
    cases ha
  have listed : Listing (t.insert y b) ((t.insert y b).insert p a') lists agrees := by
    refine (h.add new blank).set_listed ?_
    intro q c d hc hd agreed'
    rw [old] at hd
    cases hd
    exact kept' q c agreed'
  refine listed.list_further old further kept (b := b) ?_ agreed ?_
  · rw [get?_insert, if_neg apart, get?_insert_self]
  · intro q c hc
    rcases of_get?_insert hc with ⟨rfl, rfl⟩ | ⟨-, hc⟩
    · rw [blank]
      exact List.not_mem_nil
    · exact h.not_mem_of_absent new hc

end Own

/-! ### All lists together -/

/-- All that is listed is listed once. -/
theorem nodup_flatMap (h : Listing t u lists agrees) : (t.values.flatMap lists).Nodup := by
  have stored : ∀ e ∈ t.entries, t.get? e.1 = some e.2 := fun e he => get?_eq_some_iff.2 he
  have keys : t.entries.Pairwise fun e f => e.1 ≠ f.1 := List.pairwise_map.1 t.keys_nodup
  rw [values, List.flatMap_map, List.nodup_flatMap]
  refine ⟨fun e he => h.once (stored e he), ?_⟩
  refine keys.imp_of_mem ?_
  intro e f he hf different x hx hx'
  exact different (h.apart (stored e he) (stored f hf) hx hx')

end Listing

namespace Answered

variable {t : Table κ α} {u : Table ν β} {lists : α → List ν} {owner : β → Option κ}
  {p : κ} {a' : α} {y : ν} {b : β}

/-- Listing more in one entry keeps every answer. -/
theorem set_lister (h : Answered t u lists owner)
    (kept : ∀ a, t.get? p = some a → lists a ⊆ lists a') :
    Answered (t.insert p a') u lists owner := by
  intro x c q hc named
  obtain ⟨a, ha, hx⟩ := h x c q hc named
  by_cases same : q = p
  · subst same
    exact ⟨a', get?_insert_self, kept a ha hx⟩
  · refine ⟨a, ?_, hx⟩
    rw [get?_insert, if_neg same, ha]

/-- So does replacing an entry that is listed. -/
theorem set_listed (h : Answered t u lists owner)
    (listed : ∀ q, owner b = some q → ∃ a, t.get? q = some a ∧ y ∈ lists a) :
    Answered t (u.insert y b) lists owner := by
  intro x c q hc named
  rcases of_get?_insert hc with ⟨rfl, rfl⟩ | ⟨-, hc⟩
  · exact listed q named
  · exact h x c q hc named

end Answered

/-! ## Lists without repetition -/

section Lists

variable {κ α β : Type} [DecidableEq κ] {t : Table κ α} {lists : α → List β} {p q : κ} {a c : α} {x : β}

/-- What is listed is listed in some entry. -/
theorem mem_flatMap_values : x ∈ t.values.flatMap lists ↔ ∃ k a, t.get? k = some a ∧ x ∈ lists a := by
  simp only [values, List.mem_flatMap, List.mem_map, get?_eq_some_iff]
  constructor
  · rintro ⟨_, ⟨e, he, rfl⟩, hx⟩
    exact ⟨e.1, e.2, he, hx⟩
  · rintro ⟨k, a, ha, hx⟩
    exact ⟨a, ⟨(k, a), ha, rfl⟩, hx⟩

theorem nodup_of_nodup_lists (nodup : (t.values.flatMap lists).Nodup) (ha : t.get? p = some a) :
    (lists a).Nodup :=
  (List.nodup_flatMap.1 nodup).1 a (List.mem_map_of_mem (f := Prod.snd) (get?_eq_some_iff.1 ha))

/-- Where nothing is listed twice in all lists together, two entries that list the same are one. -/
theorem eq_of_nodup_lists (nodup : (t.values.flatMap lists).Nodup) (ha : t.get? p = some a)
    (hc : t.get? q = some c) (hx : x ∈ lists a) (hx' : x ∈ lists c) : p = q := by
  by_contra different
  rw [values, List.flatMap_map] at nodup
  have apart := (List.nodup_flatMap.1 nodup).2
  have symm : Std.Symm (Function.onFun List.Disjoint fun e : κ × α => lists e.2) :=
    ⟨fun _ _ apart _ hx hx' => apart hx' hx⟩
  have entries : (p, a) ≠ (q, c) := fun same => different (congrArg Prod.fst same)
  exact apart.forall (get?_eq_some_iff.1 ha) (get?_eq_some_iff.1 hc) entries hx hx'

omit [DecidableEq κ] in
theorem flatMap_values_mapValues {f : κ → α → α} (kept : ∀ k a, lists (f k a) = lists a) :
    (t.mapValues f).values.flatMap lists = t.values.flatMap lists := by
  simp only [values, mapValues, List.flatMap_map, kept]

end Lists
end Table
end StoryLoom
