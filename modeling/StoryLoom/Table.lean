/-!
# Table — finite maps that keep the order of insertion

- `Table κ α`   : pairs with distinct keys, in the order in which the keys came
- `get?`        : the value of a key
- `insert`      : replace the value of a key in place, or append a new pair
- `modify`      : change the value of a key, if it has one
- `mapValues`   : change every value
- `extend`      : insert all pairs of a second table
- `ofList`      : insert the pairs of a list one after the other, so the last pair of a key wins
-/

namespace StoryLoom

/-- A finite map as the list of its pairs. No key occurs twice. -/
structure Table (κ : Type) (α : Type) where
  entries : List (κ × α)
  keys_nodup : (entries.map Prod.fst).Nodup

namespace Table

variable {κ : Type} {α : Type}

/-- The keys in the order of insertion. -/
def keys (t : Table κ α) : List κ :=
  t.entries.map Prod.fst

def values (t : Table κ α) : List α :=
  t.entries.map Prod.snd

def size (t : Table κ α) : Nat :=
  t.entries.length

def empty : Table κ α :=
  ⟨[], List.nodup_nil⟩

instance : EmptyCollection (Table κ α) := ⟨empty⟩

instance : Inhabited (Table κ α) := ⟨empty⟩

theorem ext_entries {s t : Table κ α} (h : s.entries = t.entries) : s = t := by
  cases s; cases t; cases h; rfl

/-! ## Reading -/

section Reading

variable [DecidableEq κ]

def lookup : List (κ × α) → κ → Option α
  | [], _ => none
  | (k, v) :: rest, key => if k = key then some v else lookup rest key

def get? (t : Table κ α) (key : κ) : Option α :=
  lookup t.entries key

def contains (t : Table κ α) (key : κ) : Bool :=
  (t.get? key).isSome

/-- Nothing is found under a key that does not occur. -/
theorem lookup_eq_none_iff {l : List (κ × α)} {key : κ} :
    lookup l key = none ↔ key ∉ l.map Prod.fst := by
  induction l with
  | nil => simp [lookup]
  | cons p rest ih =>
    obtain ⟨k, v⟩ := p
    by_cases h : k = key
    · simp [lookup, h]
    · simp [lookup, h, ih, Ne.symm h]

theorem get?_eq_none_iff {t : Table κ α} {key : κ} : t.get? key = none ↔ key ∉ t.keys :=
  lookup_eq_none_iff

/-- What is found under a key stands beside it. -/
theorem mem_of_lookup {l : List (κ × α)} {key : κ} {v : α} (h : lookup l key = some v) :
    (key, v) ∈ l := by
  induction l with
  | nil => simp [lookup] at h
  | cons p rest ih =>
    obtain ⟨k, w⟩ := p
    by_cases hk : k = key
    · subst hk
      simp [lookup] at h
      simp [h]
    · simp [lookup, hk] at h
      exact List.mem_cons_of_mem _ (ih h)

/-- Where the keys are distinct, the pair found is the only one. -/
theorem lookup_of_mem {l : List (κ × α)} {key : κ} {v : α} (distinct : (l.map Prod.fst).Nodup)
    (h : (key, v) ∈ l) : lookup l key = some v := by
  induction l with
  | nil => cases h
  | cons p rest ih =>
    obtain ⟨k, w⟩ := p
    simp only [List.map_cons, List.nodup_cons] at distinct
    rcases List.mem_cons.1 h with here | later
    · cases here
      simp [lookup]
    · have hk : k ≠ key := by
        rintro rfl
        exact distinct.1 (List.mem_map_of_mem (f := Prod.fst) later)
      simpa [lookup, hk] using ih distinct.2 later

/-- A table has no key twice, so its entries are what is found. -/
theorem get?_eq_some_iff {t : Table κ α} {key : κ} {v : α} :
    t.get? key = some v ↔ (key, v) ∈ t.entries :=
  ⟨mem_of_lookup, lookup_of_mem t.keys_nodup⟩

end Reading

/-! ## Writing -/

section Writing

variable [DecidableEq κ]

/-- Replace the value of the first pair with the key, or append a new pair. -/
def put : List (κ × α) → κ → α → List (κ × α)
  | [], key, value => [(key, value)]
  | (k, v) :: rest, key, value =>
    if k = key then (key, value) :: rest else (k, v) :: put rest key value

/-- Putting a value adds its key at most. -/
theorem mem_keys_put {l : List (κ × α)} {key k : κ} {value : α} :
    k ∈ (put l key value).map Prod.fst ↔ k = key ∨ k ∈ l.map Prod.fst := by
  induction l with
  | nil => simp [put]
  | cons p rest ih =>
    obtain ⟨k', v⟩ := p
    by_cases h : k' = key
    · simp [put, h]
    · simp only [put, h, if_false, List.map_cons, List.mem_cons, ih]
      exact or_left_comm

/-- And does not repeat it. -/
theorem nodup_keys_put {l : List (κ × α)} {key : κ} {value : α}
    (h : (l.map Prod.fst).Nodup) : ((put l key value).map Prod.fst).Nodup := by
  induction l with
  | nil => simp [put]
  | cons p rest ih =>
    obtain ⟨k', v⟩ := p
    simp only [List.map_cons, List.nodup_cons] at h
    by_cases hk : k' = key
    · subst hk
      simpa [put] using h
    · simp only [put, hk, if_false, List.map_cons, List.nodup_cons]
      refine ⟨?_, ih h.2⟩
      intro hm
      rcases mem_keys_put.1 hm with rfl | hm
      · exact hk rfl
      · exact h.1 hm

/-- Set the value of a key. A known key keeps its place, a new one comes last. -/
def insert (t : Table κ α) (key : κ) (value : α) : Table κ α :=
  ⟨put t.entries key value, nodup_keys_put t.keys_nodup⟩

def insertAll (t : Table κ α) (pairs : List (κ × α)) : Table κ α :=
  pairs.foldl (fun acc p => acc.insert p.1 p.2) t

def ofList (pairs : List (κ × α)) : Table κ α :=
  empty.insertAll pairs

/-- All pairs of a second table inserted into the first. -/
def extend (t u : Table κ α) : Table κ α :=
  t.insertAll u.entries

def modify (t : Table κ α) (key : κ) (f : α → α) : Table κ α :=
  match t.get? key with
  | none => t
  | some v => t.insert key (f v)

/-- The value put is found under its key, and the others as before. -/
theorem lookup_put {l : List (κ × α)} {key k : κ} {value : α} :
    lookup (put l key value) k = if k = key then some value else lookup l k := by
  induction l with
  | nil => by_cases h : key = k <;> simp [put, lookup, h, eq_comm]
  | cons p rest ih =>
    obtain ⟨k', v⟩ := p
    by_cases h : k' = key
    · subst h
      by_cases hk : k' = k
      · simp [put, lookup, hk]
      · simp [put, lookup, hk, Ne.symm hk]
    · by_cases hk : k' = k
      · subst hk
        simp [put, lookup, h]
      · simp [put, lookup, h, hk, ih]

theorem get?_insert {t : Table κ α} {key k : κ} {value : α} :
    (t.insert key value).get? k = if k = key then some value else t.get? k :=
  lookup_put

theorem get?_insert_self {t : Table κ α} {key : κ} {a : α} :
    (t.insert key a).get? key = some a := by
  simp [get?_insert]

/-- What a table has under a key after an entry was stored: that entry, or what it had before. -/
theorem of_get?_insert {t : Table κ α} {key k : κ} {a c : α}
    (h : (t.insert key a).get? k = some c) : (k = key ∧ c = a) ∨ (k ≠ key ∧ t.get? k = some c) := by
  rw [get?_insert] at h
  by_cases same : k = key
  · rw [if_pos same] at h
    exact .inl ⟨same, (Option.some.inj h).symm⟩
  · rw [if_neg same] at h
    exact .inr ⟨same, h⟩

/-- Each entry is old or the one put in. -/
theorem forall_entries_insert {t : Table κ α} {key : κ} {a : α} {P : κ × α → Prop}
    (h : ∀ e ∈ t.entries, P e) (new : P (key, a)) : ∀ e ∈ (t.insert key a).entries, P e := by
  rintro ⟨k, c⟩ he
  rcases of_get?_insert (get?_eq_some_iff.2 he) with ⟨rfl, rfl⟩ | ⟨-, hc⟩
  · exact new
  · exact h _ (get?_eq_some_iff.1 hc)

/-- What is stored under a new key replaces nothing. -/
theorem get?_insert_new {t : Table κ α} {key k : κ} {a c : α} (new : t.get? key = none)
    (h : t.get? k = some c) : (t.insert key a).get? k = some c := by
  have older : k ≠ key := by
    rintro rfl
    rw [new] at h
    cases h
  rw [get?_insert, if_neg older, h]

theorem get?_empty {k : κ} : (empty : Table κ α).get? k = none := rfl

end Writing

/-! ## Changing every value -/

/-- Every value replaced by a function of its key and itself. -/
def mapValues (t : Table κ α) (f : κ → α → α) : Table κ α :=
  ⟨t.entries.map (fun p => (p.1, f p.1 p.2)), by
    have h : (t.entries.map (fun p => (p.1, f p.1 p.2))).map Prod.fst = t.entries.map Prod.fst := by
      simp [List.map_map, Function.comp_def]
    rw [h]
    exact t.keys_nodup⟩

/-- Two maps that agree on the entries give one table. -/
theorem mapValues_congr [DecidableEq κ] {t : Table κ α} {f g : κ → α → α}
    (h : ∀ k a, t.get? k = some a → f k a = g k a) : t.mapValues f = t.mapValues g := by
  apply ext_entries
  refine List.map_congr_left ?_
  intro e he
  rw [h e.1 e.2 (get?_eq_some_iff.2 he)]

theorem mapValues_eq_self [DecidableEq κ] {t : Table κ α} {f : κ → α → α}
    (h : ∀ k a, t.get? k = some a → f k a = a) : t.mapValues f = t := by
  rw [mapValues_congr (g := fun _ a => a) h]
  exact ext_entries (List.map_id t.entries)

theorem keys_mapValues {t : Table κ α} {f : κ → α → α} : (t.mapValues f).keys = t.keys := by
  simp [keys, mapValues, List.map_map, Function.comp_def]

/-- Each value is found mapped, under the key it had. -/
theorem get?_mapValues [DecidableEq κ] {t : Table κ α} {f : κ → α → α} {k : κ} :
    (t.mapValues f).get? k = (t.get? k).map (f k) := by
  obtain ⟨l, hl⟩ := t
  simp only [get?, mapValues]
  clear hl
  induction l with
  | nil => rfl
  | cons p rest ih =>
    obtain ⟨k', v⟩ := p
    by_cases h : k' = k
    · subst h; simp [lookup]
    · simpa [lookup, h] using ih

end Table
end StoryLoom
