import StoryLoom.Proofs.Naming.Giving

/-!
# History — the names that a run of calls gives

- `Call`, `answer`, `after`, `afterAll` : calls for names, and the namer after them
- `Effect`                  : the four things that a call can do
- `givers`                  : the calls that gave a name to an identity without one
- `giver?`, `builder?`      : the call that named an identity, and the call that built its name
- `Faithful`                : what the tables of a namer say of the givers so far
- `names_unique_and_stable` : the names over any run of calls

The invariant speaks of the list of givers alone. So uniqueness is argued once over that list, in
whatever order calls with and without an alias come.
-/

namespace StoryLoom
namespace Namer

/-! ## Calls -/

structure Call where
  identity : Identity
  text : String
  key : Option AliasKey
  accepts : List Char → Bool

/-- What a namer answers to a call, with the names given after it. -/
def answer (n : Namer) (c : Call) : EStateM.Result Exhausted Namer String :=
  uniqueName c.identity c.text c.key c.accepts n

/-- The namer after a call, whether that succeeds or fails. -/
def after (n : Namer) (c : Call) : Namer :=
  match n.answer c with
  | .ok _ next => next
  | .error _ next => next

def afterAll (n : Namer) (calls : List Call) : Namer :=
  calls.foldl after n

theorem after_of_ok {n next : Namer} {c : Call} {name : String}
    (h : n.answer c = .ok name next) : n.after c = next := by
  rw [after, h]

theorem after_of_error {n next : Namer} {c : Call} {e : Exhausted} (h : n.answer c = .error e next) :
    n.after c = next := by
  rw [after, h]

/-! ## What a call can do -/

/-- What the search finds is accepted and not taken. -/
theorem isAvailable_of_search {n : Namer} {accepts : List Char → Bool} {base found : List Char}
    {left number : Nat} {current : List Char}
    (h : n.search accepts base left number current = .ok found) :
    n.isAvailable accepts found = true := by
  induction left generalizing number current with
  | zero =>
    rw [search_zero] at h
    split at h
    · rename_i available
      cases h
      exact available
    · cases h
  | succ left ih =>
    rw [search_succ] at h
    split at h
    · rename_i available
      cases h
      exact available
    · exact ih h

/-- So is the name built for a text. -/
theorem isAvailable_of_build {n : Namer} {accepts : List Char → Bool} {text : String}
    {found : List Char} (h : n.build accepts text = .ok found) :
    n.isAvailable accepts found = true := by
  simp only [build] at h
  split at h
  · cases h
  · exact isAvailable_of_search h

/-- A text that can be a new name, spelled out. -/
theorem isAvailable_iff {n : Namer} {accepts : List Char → Bool} {name : String} :
    n.isAvailable accepts name.toList = true ↔
      name ≠ "" ∧ accepts name.toList = true ∧ name ∉ n.taken ∧ name ∉ n.reserved := by
  simp [isAvailable, and_assoc]

/-- The four things that a call can do. -/
inductive Effect (n : Namer) (c : Call) : Namer → Prop
  /-- The identity has a name already. -/
  | known {name : String} (named : n.nameOf? c.identity = some name)
      (answered : n.answer c = .ok name n) : Effect n c n
  /-- The alias supplies the name. -/
  | shared {k : AliasKey} {name : String} (unnamed : n.nameOf? c.identity = none)
      (key : c.key = some k) (held : n.aliases.get? k = some name)
      (answered : n.answer c = .ok name { n with names := n.names.insert c.identity name }) :
      Effect n c { n with names := n.names.insert c.identity name }
  /-- A new name is built. -/
  | built {name : String} (unnamed : n.nameOf? c.identity = none)
      (unheld : ∀ k, c.key = some k → n.aliases.get? k = none)
      (available : n.isAvailable c.accepts name.toList = true)
      (answered : n.answer c = .ok name (n.record c.identity c.key name)) :
      Effect n c (n.record c.identity c.key name)
  /-- No name is found. -/
  | refused {e : Exhausted} (unnamed : n.nameOf? c.identity = none)
      (answered : n.answer c = .error e n) : Effect n c n

/-- A name is held for a key in the table, and only if a key is asked. -/
theorem aliasName?_eq_some_iff {n : Namer} {key : Option AliasKey} {name : String} :
    n.aliasName? key = some name ↔ ∃ k, key = some k ∧ n.aliases.get? k = some name := by
  simp [aliasName?, Option.bind_eq_some_iff]

theorem aliasName?_eq_none_iff {n : Namer} {key : Option AliasKey} :
    n.aliasName? key = none ↔ ∀ k, key = some k → n.aliases.get? k = none := by
  simp [aliasName?, Option.bind_eq_none_iff]

/-- Each request has one of the three effects. -/
theorem effect_after (n : Namer) (c : Call) : Effect n c (n.after c) := by
  -- The tables are asked in the order in which a request asks them.
  cases hn : n.nameOf? c.identity with
  | some name =>
    have ha : n.answer c = .ok name n := uniqueName_of_named hn _ _ _
    rw [after_of_ok ha]
    exact .known hn ha
  | none =>
    cases hk : n.aliasName? c.key with
    | some name =>
      have ha : n.answer c = .ok name { n with names := n.names.insert c.identity name } := by
        rw [answer, uniqueName_of_unnamed hn, hk]
      obtain ⟨k, hkey, held⟩ := aliasName?_eq_some_iff.1 hk
      rw [after_of_ok ha]
      exact .shared hn hkey held ha
    | none =>
      cases hb : n.build c.accepts c.text with
      | error e =>
        have ha : n.answer c = .error e n := uniqueName_of_build_error hn hk hb
        rw [after_of_error ha]
        exact .refused hn ha
      | ok chars =>
        have ha : n.answer c =
            .ok (String.ofList chars) (n.record c.identity c.key (String.ofList chars)) :=
          uniqueName_of_build_ok hn hk hb
        have available : n.isAvailable c.accepts (String.ofList chars).toList = true := by
          rw [String.toList_ofList]
          exact isAvailable_of_build hb
        rw [after_of_ok ha]
        exact .built hn (aliasName?_eq_none_iff.1 hk) available ha

/-- A call that fails leaves all tables as they were. -/
theorem eq_of_answer_error {n next : Namer} {c : Call} {e : Exhausted} (h : n.answer c = .error e next) :
    next = n := by
  have effect := effect_after n c
  rw [after_of_error h] at effect
  cases effect with
  | known named answered => rfl
  | shared unnamed key held answered => cases h.symm.trans answered
  | built unnamed unheld available answered => cases h.symm.trans answered
  | refused unnamed answered => rfl

/-! ## Names once given stay -/

/-- Every name of the first namer is a name of the second. -/
def GrowsTo (n later : Namer) : Prop :=
  ∀ identity name, n.nameOf? identity = some name → later.nameOf? identity = some name

theorem GrowsTo.refl (n : Namer) : n.GrowsTo n :=
  fun _ _ h => h

/-- Growing twice is growing. -/
theorem GrowsTo.trans {n later last : Namer} (h : n.GrowsTo later) (h' : later.GrowsTo last) :
    n.GrowsTo last :=
  fun identity name named => h' identity name (h identity name named)

/-- A new name for an identity without one leaves the other names alone. -/
theorem growsTo_insert {n : Namer} {identity : Identity} {name : String}
    (unnamed : n.nameOf? identity = none) :
    n.GrowsTo { n with names := n.names.insert identity name } := by
  intro other given h
  have hne : other ≠ identity := by
    rintro rfl
    rw [unnamed] at h
    cases h
  simpa [nameOf?, Table.get?_insert, hne] using h

/-- Whatever a request does, names once given stay. -/
theorem Effect.growsTo {n next : Namer} {c : Call} (h : Effect n c next) : n.GrowsTo next := by
  cases h with
  | known named answered => exact GrowsTo.refl n
  | shared unnamed key held answered => exact growsTo_insert unnamed
  | built unnamed unheld available answered => exact growsTo_insert unnamed
  | refused unnamed answered => exact GrowsTo.refl n

/-- So they stay after any requests. -/
theorem growsTo_afterAll (n : Namer) (calls : List Call) : n.GrowsTo (n.afterAll calls) := by
  induction calls generalizing n with
  | nil => exact GrowsTo.refl n
  | cons c rest ih => exact (effect_after n c).growsTo.trans (ih (n.after c))

/-- A call that succeeds answers the name that its identity has from then on. -/
theorem Effect.nameOf?_eq {n next last : Namer} {c : Call} {name : String} (h : Effect n c next)
    (ok : n.answer c = .ok name last) : next.nameOf? c.identity = some name := by
  cases h with
  | known named answered =>
    cases ok.symm.trans answered
    exact named
  | shared unnamed key held answered =>
    cases ok.symm.trans answered
    simp [nameOf?, Table.get?_insert]
  | built unnamed unheld available answered =>
    cases ok.symm.trans answered
    simp [nameOf?, record, Table.get?_insert]
  | refused unnamed answered => cases ok.symm.trans answered

/-- No request touches the reserved words. -/
theorem Effect.reserved_eq {n next : Namer} {c : Call} (h : Effect n c next) :
    next.reserved = n.reserved := by
  cases h <;> rfl

theorem reserved_afterAll (n : Namer) (calls : List Call) :
    (n.afterAll calls).reserved = n.reserved := by
  induction calls generalizing n with
  | nil => rfl
  | cons c rest ih => exact (ih (n.after c)).trans (effect_after n c).reserved_eq

/-! ## Givers -/

/-- Whether a call gives a name to an identity that has none. -/
def gives (n : Namer) (c : Call) : Bool :=
  (n.nameOf? c.identity).isNone && ((n.after c).nameOf? c.identity).isSome

/-- The calls of a run that give a name to an identity that has none, in their order. -/
def givers (n : Namer) : List Call → List Call
  | [] => []
  | c :: rest => (if n.gives c then [c] else []) ++ (n.after c).givers rest

/-- The requests that gave a name are among those made. -/
theorem mem_of_mem_givers {n : Namer} {calls : List Call} {c : Call} (h : c ∈ n.givers calls) :
    c ∈ calls := by
  induction calls generalizing n with
  | nil => cases h
  | cons d rest ih =>
    rcases List.mem_append.1 h with first | later
    · split at first
      · rw [List.mem_singleton.1 first]
        exact List.mem_cons_self
      · cases first
    · exact List.mem_cons_of_mem d (ih later)

/-- The giver that named an identity. -/
def giver? (given : List Call) (identity : Identity) : Option Call :=
  given.find? (fun c => c.identity = identity)

/-- The giver that built the name of a giver: the first one with its alias, or itself. -/
def builderOf? (given : List Call) (c : Call) : Option Call :=
  match c.key with
  | none => some c
  | some k => given.find? (fun d => d.key = some k)

/-- The giver that built the name of an identity. -/
def builder? (given : List Call) (identity : Identity) : Option Call :=
  (giver? given identity).bind (builderOf? given)

/-- Later givers do not change who built the name of an earlier one. -/
theorem builderOf?_append {given : List Call} {c d : Call} (hd : d ∈ given) :
    builderOf? (given ++ [c]) d = builderOf? given d := by
  unfold builderOf?
  cases hk : d.key with
  | none => rfl
  | some k =>
    -- The giver carries the alias itself, so the search ends before it reaches the new one.
    have found : (given.find? (fun e => e.key = some k)).isSome := by
      rw [List.find?_isSome]
      exact ⟨d, hd, by simp [hk]⟩
    simp only [List.find?_append]
    exact Option.or_of_isSome found

/-! ## What the tables say of the givers -/

/-- What the tables of a namer say of the givers so far. -/
structure Faithful (n : Namer) (given : List Call) : Prop where
  /-- The identities with a name are those of givers. -/
  named_iff : ∀ identity, (∃ name, n.nameOf? identity = some name) ↔
    ∃ c ∈ given, c.identity = identity
  /-- No identity has two givers. -/
  once : ∀ c ∈ given, ∀ d ∈ given, c.identity = d.identity → c = d
  /-- An alias has the name of the givers that carry it. -/
  alias_iff : ∀ k name, n.aliases.get? k = some name ↔
    ∃ c ∈ given, c.key = some k ∧ n.nameOf? c.identity = some name
  /-- The names taken are those given. -/
  taken_iff : ∀ name, name ∈ n.taken ↔ ∃ identity, n.nameOf? identity = some name
  /-- Givers with one name are one giver or carry one alias. -/
  alike : ∀ c ∈ given, ∀ d ∈ given, n.nameOf? c.identity = n.nameOf? d.identity →
    c = d ∨ ∃ k, c.key = some k ∧ d.key = some k
  /-- A name is no reserved word and suits the giver that built it. -/
  fits : ∀ c ∈ given, ∀ name, n.nameOf? c.identity = some name →
    name ≠ "" ∧ name ∉ n.reserved ∧
      ∃ b, builderOf? given c = some b ∧ b.accepts name.toList = true

namespace Faithful

variable {n : Namer} {given : List Call}

/-- A fresh namer has given no name. -/
theorem of_start (reserved : List String) (maxAttempts : Nat) :
    Faithful (start reserved maxAttempts) [] := by
  constructor <;> simp [start, nameOf?, EmptyCollection.emptyCollection, Table.get?_empty]

/-- Every giver has given a name. -/
theorem exists_name (h : Faithful n given) {c : Call} (hc : c ∈ given) :
    ∃ name, n.nameOf? c.identity = some name :=
  (h.named_iff c.identity).2 ⟨c, hc, rfl⟩

/-- An identity without a name has no giver. -/
theorem identity_ne (h : Faithful n given) {c d : Call} (unnamed : n.nameOf? c.identity = none)
    (hd : d ∈ given) : d.identity ≠ c.identity := by
  intro heq
  obtain ⟨name, named⟩ := h.exists_name hd
  rw [heq, unnamed] at named
  cases named

/-- Givers with one alias have one name. -/
theorem nameOf?_eq_of_key (h : Faithful n given) {c d : Call} {k : AliasKey} (hc : c ∈ given)
    (hd : d ∈ given) (ck : c.key = some k) (dk : d.key = some k) :
    n.nameOf? c.identity = n.nameOf? d.identity := by
  obtain ⟨a, named⟩ := h.exists_name hc
  obtain ⟨b, named'⟩ := h.exists_name hd
  have ha : n.aliases.get? k = some a := (h.alias_iff k a).2 ⟨c, hc, ck, named⟩
  have hb : n.aliases.get? k = some b := (h.alias_iff k b).2 ⟨d, hd, dk, named'⟩
  rw [named, named', ← ha, hb]

/-- The giver of an identity is found. -/
theorem giver?_eq (h : Faithful n given) {c : Call} (hc : c ∈ given) :
    giver? given c.identity = some c := by
  cases hg : giver? given c.identity with
  | none =>
    have hne := List.find?_eq_none.1 hg c hc
    simp at hne
  | some d =>
    have hd : d ∈ given := List.mem_of_find?_eq_some hg
    have heq : d.identity = c.identity := by simpa using List.find?_some hg
    rw [h.once d hd c hc heq]

/-- A call that names its identity becomes the last giver. Which table supplied the name does not
matter here, only what the tables hold afterwards. -/
theorem add (h : Faithful n given) (c : Call) (name : String) {next : Namer}
    (unnamed : n.nameOf? c.identity = none)
    (nameOf?_eq : ∀ identity, next.nameOf? identity =
      if identity = c.identity then some name else n.nameOf? identity)
    (reserved_eq : next.reserved = n.reserved)
    (alias_iff : ∀ k a, next.aliases.get? k = some a ↔
      n.aliases.get? k = some a ∨ (c.key = some k ∧ a = name))
    (taken_iff : ∀ a, a ∈ next.taken ↔ a ∈ n.taken ∨ a = name)
    (alike : ∀ d ∈ given, n.nameOf? d.identity = some name → ∃ k, c.key = some k ∧ d.key = some k)
    (fits : name ≠ "" ∧ name ∉ n.reserved ∧
      ∃ b, builderOf? (given ++ [c]) c = some b ∧ b.accepts name.toList = true) :
    Faithful next (given ++ [c]) := by
  have new : next.nameOf? c.identity = some name := by rw [nameOf?_eq, if_pos rfl]
  -- The new call names an identity without a name, so no earlier giver is touched.
  have old : ∀ d ∈ given, next.nameOf? d.identity = n.nameOf? d.identity := by
    intro d hd
    rw [nameOf?_eq, if_neg (h.identity_ne unnamed hd)]
  have mem_iff : ∀ d, d ∈ given ++ [c] ↔ d ∈ given ∨ d = c := by simp
  constructor
  case named_iff =>
    intro identity
    by_cases hi : identity = c.identity
    · subst hi
      simp [new]
    · simp only [nameOf?_eq, if_neg hi, h.named_iff, mem_iff, or_and_right, exists_or]
      simp [Ne.symm hi]
  case once =>
    intro d hd e he heq
    rcases (mem_iff d).1 hd with earlier | rfl <;> rcases (mem_iff e).1 he with earlier' | rfl
    · exact h.once d earlier e earlier' heq
    · exact absurd heq (h.identity_ne unnamed earlier)
    · exact absurd heq.symm (h.identity_ne unnamed earlier')
    · rfl
  case alias_iff =>
    intro k a
    rw [alias_iff, h.alias_iff]
    constructor
    · rintro (⟨d, hd, dk, named⟩ | ⟨ck, rfl⟩)
      · exact ⟨d, (mem_iff d).2 (.inl hd), dk, (old d hd).trans named⟩
      · exact ⟨c, (mem_iff c).2 (.inr rfl), ck, new⟩
    · rintro ⟨d, hd, dk, named⟩
      rcases (mem_iff d).1 hd with hd | rfl
      · exact .inl ⟨d, hd, dk, (old d hd).symm.trans named⟩
      · exact .inr ⟨dk, Option.some.inj (named.symm.trans new)⟩
  case taken_iff =>
    intro a
    rw [taken_iff, h.taken_iff]
    constructor
    · rintro (⟨identity, named⟩ | rfl)
      · refine ⟨identity, ?_⟩
        have hne : identity ≠ c.identity := by
          rintro rfl
          rw [unnamed] at named
          cases named
        rw [nameOf?_eq, if_neg hne, named]
      · exact ⟨c.identity, new⟩
    · rintro ⟨identity, named⟩
      rw [nameOf?_eq] at named
      split at named
      · exact .inr (Option.some.inj named).symm
      · exact .inl ⟨identity, named⟩
  case alike =>
    intro d hd e he heq
    rcases (mem_iff d).1 hd with earlier | rfl <;> rcases (mem_iff e).1 he with earlier' | rfl
    · rw [old d earlier, old e earlier'] at heq
      exact h.alike d earlier e earlier' heq
    · rw [old d earlier, new] at heq
      obtain ⟨k, ck, dk⟩ := alike d earlier heq
      exact .inr ⟨k, dk, ck⟩
    · rw [old e earlier', new] at heq
      exact .inr (alike e earlier' heq.symm)
    · exact .inl rfl
  case fits =>
    intro d hd a named
    rw [reserved_eq]
    rcases (mem_iff d).1 hd with hd | rfl
    · rw [builderOf?_append hd]
      exact h.fits d hd a ((old d hd).symm.trans named)
    · rw [new] at named
      cases named
      exact fits

/-- The namer after a call that the alias answers. -/
theorem add_shared (h : Faithful n given) {c : Call} {k : AliasKey} {name : String}
    (unnamed : n.nameOf? c.identity = none) (key : c.key = some k)
    (held : n.aliases.get? k = some name) :
    Faithful { n with names := n.names.insert c.identity name } (given ++ [c]) := by
  -- The alias has a first giver already, which built the name.
  obtain ⟨d, hd, dk, named⟩ := (h.alias_iff k name).1 held
  refine h.add c name unnamed ?_ rfl ?_ ?_ ?_ ?_
  · intro identity
    simp [nameOf?, Table.get?_insert]
  · intro k' a
    constructor
    · exact .inl
    · rintro (ha | ⟨key', rfl⟩)
      · exact ha
      · rw [key] at key'
        cases key'
        exact held
  · intro a
    constructor
    · exact .inl
    · rintro (ha | rfl)
      · exact ha
      · exact (h.taken_iff a).2 ⟨d.identity, named⟩
  · intro e he named'
    rcases h.alike d hd e he (named.trans named'.symm) with rfl | ⟨k', dk', ek'⟩
    · exact ⟨k, key, dk⟩
    · rw [dk] at dk'
      cases dk'
      exact ⟨k, key, ek'⟩
  · have fits := h.fits d hd name named
    have same : builderOf? (given ++ [c]) c = builderOf? (given ++ [c]) d := by
      simp [builderOf?, key, dk]
    rw [same, builderOf?_append hd]
    exact fits

/-- The namer after a call that builds a new name. -/
theorem add_built (h : Faithful n given) {c : Call} {name : String}
    (unnamed : n.nameOf? c.identity = none)
    (unheld : ∀ k, c.key = some k → n.aliases.get? k = none)
    (available : n.isAvailable c.accepts name.toList = true) :
    Faithful (n.record c.identity c.key name) (given ++ [c]) := by
  obtain ⟨nonempty, accepted, untaken, unreserved⟩ := isAvailable_iff.1 available
  refine h.add c name unnamed ?_ rfl ?_ ?_ ?_ ?_
  · intro identity
    simp [nameOf?, record, Table.get?_insert]
  · intro k a
    cases ck : c.key with
    | none => simp [record]
    | some k' =>
      by_cases hk : k = k'
      · subst hk
        simp [record, Table.get?_insert, unheld k ck, eq_comm]
      · simp [record, Table.get?_insert, hk, Ne.symm hk]
  · intro a
    simp [record, or_comm]
  · intro d hd named
    exact absurd ((h.taken_iff name).2 ⟨d.identity, named⟩) untaken
  · refine ⟨nonempty, unreserved, c, ?_, accepted⟩
    cases ck : c.key with
    | none => simp [builderOf?, ck]
    | some k =>
      -- No earlier giver carries the alias, since it has no name yet.
      have none_before : given.find? (fun d => d.key = some k) = none := by
        rw [List.find?_eq_none]
        intro d hd dk
        obtain ⟨a, named⟩ := h.exists_name hd
        have held := (h.alias_iff k a).2 ⟨d, hd, by simpa using dk, named⟩
        rw [unheld k ck] at held
        cases held
      simp [builderOf?, ck, List.find?_append, none_before]

end Faithful

/-- One call keeps the tables faithful to the givers. -/
theorem Effect.faithful {n next : Namer} {c : Call} {given : List Call} (h : Effect n c next)
    (hn : Faithful n given) :
    Faithful next (given ++ if (n.nameOf? c.identity).isNone && (next.nameOf? c.identity).isSome
      then [c] else []) := by
  cases h with
  | known named answered => simpa [named] using hn
  | @shared k name unnamed key held answered =>
    have new : nameOf? { n with names := n.names.insert c.identity name } c.identity = some name := by
      simp [nameOf?, Table.get?_insert]
    rw [unnamed, new]
    exact hn.add_shared unnamed key held
  | @built name unnamed unheld available answered =>
    have new : (n.record c.identity c.key name).nameOf? c.identity = some name := by
      simp [nameOf?, record, Table.get?_insert]
    rw [unnamed, new]
    exact hn.add_built unnamed unheld available
  | refused unnamed answered => simpa [unnamed] using hn

/-- A run of calls keeps the tables faithful to the givers. -/
theorem faithful_afterAll {n : Namer} {given : List Call} (h : Faithful n given)
    (calls : List Call) : Faithful (n.afterAll calls) (given ++ n.givers calls) := by
  induction calls generalizing n given with
  | nil => simpa [givers, afterAll] using h
  | cons c rest ih =>
    -- What the first call gives stands in front of what the others give.
    have step := (effect_after n c).faithful h
    have run := ih step
    rw [List.append_assoc] at run
    exact run

/-- The tables say what the requests so far were given. -/
theorem faithful_run (reserved : List String) (maxAttempts : Nat) (calls : List Call) :
    Faithful ((start reserved maxAttempts).afterAll calls)
      ((start reserved maxAttempts).givers calls) := by
  simpa using faithful_afterAll (Faithful.of_start reserved maxAttempts) calls

/-! ## Names over a run -/

namespace Faithful

variable {n : Namer} {given : List Call}

/-- Two identities have one name just if their givers are one or carry one alias. -/
theorem nameOf?_eq_iff (h : Faithful n given) {c d : Call} (hc : c ∈ given) (hd : d ∈ given) :
    n.nameOf? c.identity = n.nameOf? d.identity ↔ c = d ∨ ∃ k, c.key = some k ∧ d.key = some k := by
  constructor
  · exact h.alike c hc d hd
  · rintro (rfl | ⟨k, ck, dk⟩)
    · rfl
    · exact h.nameOf?_eq_of_key hc hd ck dk

/-- Two different identities have one name just if their givers carry one alias. -/
theorem eq_iff_key_eq (h : Faithful n given) {i j : Identity} {a b : String} (hij : i ≠ j)
    (hi : n.nameOf? i = some a) (hj : n.nameOf? j = some b) :
    a = b ↔ ∃ k, (giver? given i).bind Call.key = some k ∧ (giver? given j).bind Call.key = some k := by
  obtain ⟨c, hc, rfl⟩ := (h.named_iff i).1 ⟨a, hi⟩
  obtain ⟨d, hd, rfl⟩ := (h.named_iff j).1 ⟨b, hj⟩
  have hcd : c ≠ d := by
    rintro rfl
    exact hij rfl
  have key : n.nameOf? c.identity = n.nameOf? d.identity ↔
      ∃ k, c.key = some k ∧ d.key = some k := by
    simpa [hcd] using h.nameOf?_eq_iff hc hd
  rw [h.giver?_eq hc, h.giver?_eq hd]
  simpa [hi, hj] using key

/-- The builder of a name accepts it. -/
theorem exists_builder (h : Faithful n given) {identity : Identity} {name : String}
    (named : n.nameOf? identity = some name) :
    name ≠ "" ∧ name ∉ n.reserved ∧
      ∃ b, builder? given identity = some b ∧ b.accepts name.toList = true := by
  obtain ⟨c, hc, rfl⟩ := (h.named_iff identity).1 ⟨name, named⟩
  simpa [builder?, h.giver?_eq hc] using h.fits c hc name named

end Faithful

/-- The names over any run of calls. A name, once given, is answered to every later call for its
identity. Two identities have one name just if the calls that named them carry one alias. Every name is
no reserved word and suits the call that built it. A call that fails leaves all
tables as they were. -/
theorem names_unique_and_stable (reserved : List String) (maxAttempts : Nat) (calls : List Call) :
    let n := (start reserved maxAttempts).afterAll calls
    let given := (start reserved maxAttempts).givers calls
    (∀ identity name, n.nameOf? identity = some name → ∀ later : List Call,
      (n.afterAll later).nameOf? identity = some name ∧
      ∀ text key accepts, uniqueName identity text key accepts (n.afterAll later) =
        .ok name (n.afterAll later)) ∧
    (∀ c name next, n.answer c = .ok name next → next.nameOf? c.identity = some name) ∧
    (∀ i j a b, i ≠ j → n.nameOf? i = some a → n.nameOf? j = some b →
      (a = b ↔ ∃ k, (giver? given i).bind Call.key = some k ∧
        (giver? given j).bind Call.key = some k)) ∧
    (∀ identity name, n.nameOf? identity = some name →
      name ≠ "" ∧ name ∉ reserved ∧
        ∃ b, builder? given identity = some b ∧ b.accepts name.toList = true) ∧
    (∀ c e next, n.answer c = .error e next → next = n) := by
  intro n given
  have faithful : Faithful n given := faithful_run reserved maxAttempts calls
  refine ⟨?_, ?_, ?_, ?_, ?_⟩
  · intro identity name named later
    have still := growsTo_afterAll n later identity name named
    exact ⟨still, uniqueName_of_named still⟩
  · intro c name next answered
    have named := (effect_after n c).nameOf?_eq answered
    rwa [after_of_ok answered] at named
  · intro i j a b hij hi hj
    exact faithful.eq_iff_key_eq hij hi hj
  · intro identity name named
    have fits := faithful.exists_builder named
    rwa [reserved_afterAll (start reserved maxAttempts) calls] at fits
  · intro c e next refused
    exact eq_of_answer_error refused

end Namer
end StoryLoom
