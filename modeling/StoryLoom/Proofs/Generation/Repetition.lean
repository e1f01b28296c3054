import StoryLoom.Proofs.Generation.Computation
import StoryLoom.Proofs.Naming.History

/-!
# Repetition — resolving a template again during one pass

- `Request`, `Pass.answer`, `Pass.afterAll` : what can be asked of a pass, and the pass after it
- `Naming.Settled`     : computations with a result that a second run finds again
- `resolution_repeats` : every resolution is settled

A second run meets no identity for which the first one had to build a name. So the names that the first
run gave are all that the second one needs, also where the first one failed half way.
-/

namespace StoryLoom

/-! ## Runs of a pass -/

namespace Pass

/-- A pass changes in its namer only. -/
theorem run_eq_ok_iff {α : Type} {p after : Pass} {x : Naming α} {a : α} :
    p.run x = (.ok a, after) ↔
      x p.namer = .ok a after.namer ∧ after.setting = p.setting := by
  cases after
  cases hx : x p.namer <;> simp [run, hx, and_comm, eq_comm, and_assoc]

theorem run_eq_error_iff {α : Type} {p after : Pass} {x : Naming α} {e : GenerationError} :
    p.run x = (.error e, after) ↔
      x p.namer = .error e after.namer ∧ after.setting = p.setting := by
  cases after
  cases hx : x p.namer <;> simp [run, hx, and_comm, eq_comm, and_assoc]

theorem setting_run {α : Type} (p : Pass) (x : Naming α) : (p.run x).2.setting = p.setting := by
  unfold run
  split <;> rfl

theorem namer_run {α : Type} (p : Pass) (x : Naming α) : (p.run x).2.namer = x.after p.namer := by
  unfold run Naming.after
  split <;> simp_all

end Pass

/-! ## Settled computations -/

/-- A computation that keeps all names, finds a result again at every later state, and fails again as it
failed before. -/
structure Naming.Settled (α : Type) (x : Naming α) : Prop where
  grows : ∀ n : Namer, n.GrowsTo (x.after n)
  repeats : ∀ {n a next later}, x n = .ok a next → next.GrowsTo later → x later = .ok a later
  fails_again : ∀ {n e next}, x n = .error e next → x next = .error e next

namespace Naming.Settled

variable {α β : Type}

/-- Names once given stay given. -/
theorem grows_ok {x : Naming α} (hx : Settled α x) {n next : Namer} {a : α} (h : x n = .ok a next) :
    n.GrowsTo next := by
  have grown := hx.grows n
  rwa [after_of_ok h] at grown

/-- Also when the step fails. -/
theorem grows_error {x : Naming α} (hx : Settled α x) {n next : Namer} {e : GenerationError}
    (h : x n = .error e next) : n.GrowsTo next := by
  have grown := hx.grows n
  rwa [after_of_error h] at grown

theorem pure (a : α) : Settled α (pure a) where
  grows n := Namer.GrowsTo.refl n
  repeats h _ := by cases h; rfl
  fails_again h := by cases h

theorem throw (e : GenerationError) : Settled α (throw e) where
  grows n := Namer.GrowsTo.refl n
  repeats h _ := by cases h
  fails_again h := by cases h; rfl

/-- The second step finds at least the names the first left. -/
theorem bind {x : Naming α} {f : α → Naming β} (hx : Settled α x) (hf : ∀ a, Settled β (f a)) :
    Settled β (x >>= f) where
  grows := by
    intro n
    cases hxn : x n with
    | error e middle =>
      rw [after_bind_of_error hxn]
      exact hx.grows n
    | ok a middle =>
      rw [after_bind_of_ok hxn]
      exact (hx.grows_ok hxn).trans ((hf a).grows middle)
  repeats := by
    intro n b next later h hlater
    obtain ⟨a, middle, first, second⟩ := bind_eq_ok_iff.1 h
    -- What the second part keeps, the first part finds again.
    have kept : middle.GrowsTo later := ((hf a).grows_ok second).trans hlater
    exact bind_eq_ok_iff.2 ⟨a, later, hx.repeats first kept, (hf a).repeats second hlater⟩
  fails_again := by
    intro n e next h
    rcases bind_eq_error_iff.1 h with first | ⟨a, middle, first, second⟩
    · exact bind_of_error (hx.fails_again first)
    · -- The first part succeeds again, now without a new name, so that the second part fails where it
      -- failed before.
      have kept : middle.GrowsTo next := (hf a).grows_error second
      exact bind_eq_error_iff.2 (.inr ⟨a, next, hx.repeats first kept, (hf a).fails_again second⟩)

theorem mapError {x : Naming α} (f : GenerationError → GenerationError) (hx : Settled α x) :
    Settled α (mapError f x) where
  grows := by
    intro n
    rw [after_mapError]
    exact hx.grows n
  repeats := by
    intro n a next later h hlater
    exact mapError_eq_ok_iff.2 (hx.repeats (mapError_eq_ok_iff.1 h) hlater)
  fails_again := by
    intro n e next h
    obtain ⟨cause, failed, rfl⟩ := mapError_eq_error_iff.1 h
    exact mapError_of_error (hx.fails_again failed)

end Naming.Settled

/-! ## Requests -/

inductive Request
  /-- The name of the object of a context. -/
  | name (c : Context) (legal : Option String)
  /-- The value of a key. -/
  | data (c : Context) (key : DataKey) (legal : Option String)
  /-- The text of a template. -/
  | text (c : Context) (template : Template)
  /-- The name of an identity; all names are asked for in this way in the end. -/
  | identity (i : Identity) (t : String) (legal : Option String)

variable [PatternLibrary]

/-- The computation that a request starts. -/
def Request.computation (s : Setting) : Request → Naming String
  | .name c legal => c.name s legal
  | .data c key legal => do
    let a ← c.data s key legal
    resolveAnswer (resolveUpTo s s.depthBound) a
  | .text c template => resolve s template c
  | .identity i t legal => s.nameOf i t (i.alias? s.model) legal

namespace Pass

/-- What a pass answers to a request, and the pass after it. -/
def answer (p : Pass) (r : Request) : Except GenerationError String × Pass :=
  p.run (r.computation p.setting)

def afterAll (p : Pass) (requests : List Request) : Pass :=
  requests.foldl (fun p r => (p.answer r).2) p

end Pass

/-- Every request has the properties that all computations of a pass have. -/
theorem Naming.Closed.request {s : Setting} {P : (α : Type) → Naming α → Prop} (h : Closed s P)
    (r : Request) : P String (r.computation s) := by
  cases r with
  | name c legal => exact h.name c legal
  | data c key legal =>
    exact h.bind (h.data c key legal) fun a =>
      h.resolveAnswer (fun c template => h.resolveUpTo s.depthBound c template) a
  | text c template => exact h.resolveUpTo s.depthBound c template
  | identity i t legal => exact h.nameOf i t legal

/-! ## Every request is settled -/

namespace Naming.Settled

/-- A single request for a name is settled: once it succeeds the identity has its name, and where it
fails nothing has changed. -/
theorem nameOf (s : Setting) (identity : Identity) (text : String) (key : Option AliasKey)
    (legal : Option String) : Settled String (s.nameOf identity text key legal) where
  grows := by
    intro n
    rcases Setting.after_nameOf s identity text key legal n with same | ⟨c, -, -, called⟩
    · rw [same]
      exact Namer.GrowsTo.refl n
    · rw [called]
      exact (Namer.effect_after n c).growsTo
  repeats := by
    intro n name next later h hlater
    exact Setting.nameOf_of_named (hlater identity name (Setting.nameOf?_of_nameOf h))
  fails_again := by
    intro n e next h
    have same := Setting.eq_of_nameOf_error h
    subst same
    exact h

/-- Every step of the generator is settled. -/
theorem closed (s : Setting) : Closed s Settled where
  pure := pure
  throw := throw
  bind := bind
  mapError := mapError
  nameOf identity text legal := nameOf s identity text _ legal

end Naming.Settled

/-! ## The names of a pass -/

namespace Pass

/-- Requests leave the setting as it is. -/
theorem setting_afterAll (p : Pass) (requests : List Request) :
    (p.afterAll requests).setting = p.setting := by
  induction requests generalizing p with
  | nil => rfl
  | cons r rest ih => exact (ih (p.answer r).2).trans (setting_run p _)

/-- A pass keeps its names, whatever is asked of it. -/
theorem growsTo_afterAll (p : Pass) (requests : List Request) :
    p.namer.GrowsTo (p.afterAll requests).namer := by
  induction requests generalizing p with
  | nil => exact Namer.GrowsTo.refl p.namer
  | cons r rest ih =>
    have first : p.namer.GrowsTo (p.answer r).2.namer := by
      rw [answer, namer_run]
      exact ((Naming.Settled.closed p.setting).request r).grows p.namer
    exact first.trans (ih (p.answer r).2)

/-- Resolving a template is repeatable, at every bound on the depth of templates inside each other. A
text is found again at every later point of the pass, and no name is given for it a second time. After a
failure the same failure follows at once, and no further name is given. Names given before stay. -/
theorem resolution_repeats (p : Pass) (depth : Nat) (c : Context) (template : Template) :
    let x := resolveUpTo p.setting depth c template
    (∀ text after, p.run x = (.ok text, after) → ∀ requests : List Request,
      (after.afterAll requests).run x = (.ok text, after.afterAll requests)) ∧
    (∀ e after, p.run x = (.error e, after) → after.run x = (.error e, after)) ∧
    (∀ identity name, p.nameOf? identity = some name →
      (p.run x).2.nameOf? identity = some name) := by
  intro x
  have settled : Naming.Settled String x :=
    (Naming.Settled.closed p.setting).resolveUpTo depth c template
  refine ⟨?_, ?_, ?_⟩
  · intro text after h requests
    obtain ⟨ok, -⟩ := run_eq_ok_iff.1 h
    exact run_eq_ok_iff.2 ⟨settled.repeats ok (growsTo_afterAll after requests), rfl⟩
  · intro e after h
    obtain ⟨failed, -⟩ := run_eq_error_iff.1 h
    exact run_eq_error_iff.2 ⟨settled.fails_again failed, rfl⟩
  · intro identity name named
    have grown : p.namer.GrowsTo (p.run x).2.namer := by
      rw [namer_run]
      exact settled.grows p.namer
    exact grown identity name named

end Pass

end StoryLoom
