import StoryLoom.Generation.Pass
import StoryLoom.Proofs.Naming.History

/-!
# Computation — what every computation that may give names has in common

- `Naming.after`    : the names after a computation
- `Setting.Outcome` : the four ways in which a request for a name ends
- `Identity.alias?` : the alias that an identity is named under during a pass
- `Naming.Closed`   : properties kept by the ways in which computations are put together
- `Closed.name`, `Closed.data`, `Closed.resolveUpTo` : names, values and templates have every such
  property

All names come from `Setting.nameOf`. So what holds of single requests there, and is kept by sequence
and by a change of the error, holds of all that resolution does.
-/

namespace StoryLoom

namespace Naming

variable {α β : Type}

/-! ## One computation after another -/

/-- The names after a computation, whether it succeeds or fails. -/
def after (x : Naming α) (n : Namer) : Namer :=
  match x n with
  | .ok _ next => next
  | .error _ next => next

theorem after_of_ok {x : Naming α} {n next : Namer} {a : α} (h : x n = .ok a next) :
    x.after n = next := by
  simp [after, h]

theorem after_of_error {x : Naming α} {n next : Namer} {e : GenerationError}
    (h : x n = .error e next) : x.after n = next := by
  simp [after, h]

theorem bind_of_ok {x : Naming α} {f : α → Naming β} {n next : Namer} {a : α}
    (h : x n = .ok a next) : (x >>= f) n = f a next := by
  simp [bind, EStateM.bind, h]

theorem bind_of_error {x : Naming α} {f : α → Naming β} {n next : Namer} {e : GenerationError}
    (h : x n = .error e next) : (x >>= f) n = .error e next := by
  simp [bind, EStateM.bind, h]

theorem ofGiving_of_ok {x : Namer.Giving α} {n next : Namer} {a : α} (h : x n = .ok a next) :
    ofGiving x n = .ok a next := by
  simp only [ofGiving, EStateM.adaptExcept, h]

/-- The tables after a failure of the namer are those that it left. -/
theorem ofGiving_of_error {x : Namer.Giving α} {n next : Namer} {cause : Namer.Exhausted}
    (h : x n = .error cause next) :
    ofGiving x n = .error { problem := .namesExhausted cause none } next := by
  simp only [ofGiving, EStateM.adaptExcept, h]

theorem mapError_of_ok {x : Naming α} {f : GenerationError → GenerationError} {n next : Namer}
    {a : α} (h : x n = .ok a next) : mapError f x n = .ok a next := by
  simp [mapError, h]

theorem mapError_of_error {x : Naming α} {f : GenerationError → GenerationError} {n next : Namer}
    {e : GenerationError} (h : x n = .error e next) : mapError f x n = .error (f e) next := by
  simp [mapError, h]

/-- A sequence succeeds where its parts do, one after the other. -/
theorem bind_eq_ok_iff {x : Naming α} {f : α → Naming β} {n next : Namer} {b : β} :
    (x >>= f) n = .ok b next ↔ ∃ a middle, x n = .ok a middle ∧ f a middle = .ok b next := by
  constructor
  · intro h
    cases first : x n with
    | ok a middle => exact ⟨a, middle, rfl, (bind_of_ok first).symm.trans h⟩
    | error e middle => cases (bind_of_error first).symm.trans h
  · rintro ⟨a, middle, first, second⟩
    exact (bind_of_ok first).trans second

/-- A sequence fails where its first part fails, or where the second fails after it. -/
theorem bind_eq_error_iff {x : Naming α} {f : α → Naming β} {n next : Namer}
    {e : GenerationError} : (x >>= f) n = .error e next ↔
      x n = .error e next ∨ ∃ a middle, x n = .ok a middle ∧ f a middle = .error e next := by
  constructor
  · intro h
    cases first : x n with
    | ok a middle =>
      rw [bind_of_ok first] at h
      exact .inr ⟨a, middle, rfl, h⟩
    | error e' middle =>
      rw [bind_of_error first] at h
      cases h
      exact .inl rfl
  · rintro (first | ⟨a, middle, first, second⟩)
    · exact bind_of_error first
    · exact (bind_of_ok first).trans second

/-- Working on the error leaves every success as it is. -/
theorem mapError_eq_ok_iff {x : Naming α} {f : GenerationError → GenerationError}
    {n next : Namer} {a : α} : mapError f x n = .ok a next ↔ x n = .ok a next := by
  cases h : x n with
  | ok a middle => simp [mapError_of_ok h]
  | error e middle => simp [mapError_of_error h]

/-- Each failure is one of the inner step, worked on. -/
theorem mapError_eq_error_iff {x : Naming α} {f : GenerationError → GenerationError}
    {n next : Namer} {e : GenerationError} :
    mapError f x n = .error e next ↔ ∃ cause, x n = .error cause next ∧ f cause = e := by
  cases h : x n with
  | ok a middle => simp [mapError_of_ok h]
  | error cause middle =>
    rw [mapError_of_error h]
    constructor
    · intro same
      cases same
      exact ⟨cause, rfl, rfl⟩
    · rintro ⟨cause', same, rfl⟩
      cases same
      rfl

theorem after_bind_of_ok {x : Naming α} {f : α → Naming β} {n middle : Namer} {a : α}
    (h : x n = .ok a middle) : (x >>= f).after n = (f a).after middle := by
  simp only [after, bind_of_ok h]

theorem after_bind_of_error {x : Naming α} {f : α → Naming β} {n middle : Namer}
    {e : GenerationError} (h : x n = .error e middle) : (x >>= f).after n = x.after n := by
  simp only [after, bind_of_error h, h]

/-- The tables do not depend on what is done to the error. -/
theorem after_mapError (f : GenerationError → GenerationError) (x : Naming α) (n : Namer) :
    (mapError f x).after n = x.after n := by
  cases h : x n with
  | ok a next => simp only [after, mapError_of_ok h, h]
  | error e next => simp only [after, mapError_of_error h, h]

end Naming

/-! ## Requests for a name -/

namespace Setting

open Naming

variable [PatternLibrary] {s : Setting} {identity : Identity} {text : String} {key : Option AliasKey}
  {legal : Option String} {n next : Namer}

/-- The four ways in which a request for a name ends. -/
inductive Outcome (s : Setting) (identity : Identity) (text : String) (key : Option AliasKey)
    (legal : Option String) (n : Namer) : EStateM.Result GenerationError Namer String → Prop
  /-- The identity has a name already. -/
  | known {name : String} (named : n.nameOf? identity = some name) :
      Outcome s identity text key legal n (.ok name n)
  /-- The namer answers. -/
  | given {p : LegalPattern} {name : String} {next : Namer} (readable : s.legal legal = .ok p)
      (answered : n.answer ⟨identity, text, key, p.accepts⟩ = .ok name next) :
      Outcome s identity text key legal n (.ok name next)
  /-- The pattern cannot be read. -/
  | unreadable {e : GenerationError} (refused : s.legal legal = .error e) :
      Outcome s identity text key legal n (.error e n)
  /-- The namer finds no name. -/
  | exhausted (cause : Namer.Exhausted) :
      Outcome s identity text key legal n (.error { problem := .namesExhausted cause none } n)

/-- Reading the pattern and asking the namer are the only two ways to fail. -/
theorem outcome_nameOf (s : Setting) (identity : Identity) (text : String)
    (key : Option AliasKey) (legal : Option String) (n : Namer) :
    Outcome s identity text key legal n (s.nameOf identity text key legal n) := by
  have state : (get : Naming Namer) n = .ok n n := rfl
  rw [nameOf, bind_of_ok state]
  -- A known name is answered before any pattern is read.
  cases hn : n.nameOf? identity with
  | some name => exact .known hn
  | none =>
    cases hl : s.legal legal with
    | error e => exact .unreadable hl
    | ok p =>
      have pattern : (Naming.ofExcept (.ok p) : Naming LegalPattern) n = .ok p n := rfl
      dsimp only
      rw [bind_of_ok pattern]
      cases hu : n.answer ⟨identity, text, key, p.accepts⟩ with
      | error cause next =>
        rw [ofGiving_of_error hu, Namer.eq_of_answer_error hu]
        exact .exhausted cause
      | ok name next =>
        rw [ofGiving_of_ok hu]
        exact .given hl hu

/-- A name given before is answered whatever else the request says. -/
theorem nameOf_of_named {name : String} (named : n.nameOf? identity = some name) :
    s.nameOf identity text key legal n = .ok name n := by
  have state : (get : Naming Namer) n = .ok n n := rfl
  rw [nameOf, bind_of_ok state, named]
  rfl

/-- A request that succeeds answers the name that its identity has from then on. -/
theorem nameOf?_of_nameOf {name : String} (h : s.nameOf identity text key legal n = .ok name next) :
    next.nameOf? identity = some name := by
  have outcome := outcome_nameOf s identity text key legal n
  rw [h] at outcome
  cases outcome with
  | known named => exact named
  | given readable answered =>
    have named := (Namer.effect_after n _).nameOf?_eq answered
    rwa [Namer.after_of_ok answered] at named

/-- A request that fails changes no name. -/
theorem eq_of_nameOf_error {e : GenerationError}
    (h : s.nameOf identity text key legal n = .error e next) : next = n := by
  have outcome := outcome_nameOf s identity text key legal n
  rw [h] at outcome
  cases outcome with
  | unreadable refused => rfl
  | exhausted cause => rfl

/-- A request calls the namer once, or not at all. -/
theorem after_nameOf (s : Setting) (identity : Identity) (text : String) (key : Option AliasKey)
    (legal : Option String) (n : Namer) :
    (s.nameOf identity text key legal).after n = n ∨
      ∃ c : Namer.Call, c.identity = identity ∧ c.key = key ∧
        (s.nameOf identity text key legal).after n = n.after c := by
  have outcome := outcome_nameOf s identity text key legal n
  simp only [Naming.after]
  generalize s.nameOf identity text key legal n = result at outcome ⊢
  cases outcome with
  | known named => exact .inl rfl
  | given readable answered =>
    exact .inr ⟨⟨identity, text, key, _⟩, rfl, rfl, (Namer.after_of_ok answered).symm⟩
  | unreadable refused => exact .inl rfl
  | exhausted cause => exact .inl rfl

end Setting

/-- The alias that an identity is named under. Only components have one. -/
def Identity.alias? (m : StoryModel) : Identity → Option AliasKey
  | .component id => AliasKey.of? m id
  | .codeBlock _ => none
  | .line _ => none

namespace Naming

variable [PatternLibrary] {α β : Type}

/-! ## Properties kept by all that resolution does -/

/-- A property of computations that is kept by the ways in which they are put together. -/
structure Closed (s : Setting) (P : (α : Type) → Naming α → Prop) : Prop where
  pure : ∀ {α : Type} (a : α), P α (pure a)
  throw : ∀ {α : Type} (e : GenerationError), P α (throw e)
  bind : ∀ {α β : Type} {x : Naming α} {f : α → Naming β}, P α x → (∀ a, P β (f a)) →
    P β (x >>= f)
  mapError : ∀ {α : Type} {x : Naming α} (f : GenerationError → GenerationError), P α x →
    P α (mapError f x)
  nameOf : ∀ (identity : Identity) (text : String) (legal : Option String),
    P String (s.nameOf identity text (identity.alias? s.model) legal)

namespace Closed

variable {s : Setting} {P : (α : Type) → Naming α → Prop}

/-- A step without the namer is a value or an error. -/
theorem ofExcept (h : Closed s P) (x : Except GenerationError α) : P α (ofExcept x) := by
  cases x with
  | ok a => exact h.pure a
  | error e => exact h.throw e

/-- A list of steps is built from its steps. -/
theorem mapM (h : Closed s P) {f : α → Naming β} (hf : ∀ a, P β (f a)) (l : List α) :
    P (List β) (l.mapM f) := by
  induction l with
  | nil => exact h.pure []
  | cons a rest ih =>
    rw [List.mapM_cons]
    exact h.bind (hf a) fun b => h.bind ih fun bs => h.pure (b :: bs)

/-! ## Names -/

/-- Each name asked for in a context is one request. -/
theorem nameHere (h : Closed s P) (c : Context) (identity : Identity) (text : String)
    (legal : Option String) :
    P String (c.nameHere s identity text (identity.alias? s.model) legal) :=
  h.mapError _ (h.nameOf identity text legal)

theorem blockName (h : Closed s P) (c : Context) (b : CodeBlock) (legal : Option String) :
    P String (c.blockName s b legal) :=
  h.nameHere c (.codeBlock b.id) _ legal

/-- A component's name is one request, or for a script one of its main block. -/
theorem componentName (h : Closed s P) (c : Context) (k : Component) (legal : Option String) :
    P String (c.componentName s k legal) := by
  unfold Context.componentName
  split
  · exact h.bind (h.ofExcept _) fun b => h.blockName c b legal
  · exact h.nameHere c (.component k.id) _ legal

theorem lineName (h : Closed s P) (c : Context) (line : DialogueLine) (legal : Option String) :
    P String (c.lineName s line legal) :=
  h.nameHere c (.line line.id) _ legal

theorem nameOfComponent (h : Closed s P) (c : Context) (id : ComponentId)
    (legal : Option String) : P String (c.nameOfComponent s id legal) := by
  refine h.bind (h.ofExcept _) fun inner => ?_
  split
  · exact h.componentName inner _ legal
  · exact h.throw _

theorem nameOfLine (h : Closed s P) (c : Context) (id : LineId) (legal : Option String) :
    P String (c.nameOfLine s id legal) := by
  refine h.bind (h.ofExcept _) fun inner => ?_
  split
  · exact h.lineName inner _ legal
  · exact h.throw _

theorem bindingName (h : Closed s P) (c : Context) (view : BindingView) (legal : Option String) :
    P String (c.bindingName s view legal) := by
  cases view with
  | unbound => exact h.throw _
  | resource r => exact h.pure _
  | reference target => exact h.nameOfComponent c _ legal
  | function script => exact h.nameOfComponent c _ legal
  | storyPoint target => exact h.nameOfComponent c _ legal
  | uninitialized target => exact h.nameOfComponent c _ legal
  | dialogue line => exact h.nameOfLine c _ legal

theorem name (h : Closed s P) (c : Context) (legal : Option String) : P String (c.name s legal) := by
  unfold Context.name
  split
  · exact h.componentName c _ legal
  · exact h.componentName c _ legal
  · exact h.blockName c _ legal
  · exact h.bindingName c _ legal
  · exact h.lineName c _ legal
  · exact h.pure _

/-! ## Values -/

theorem answerOf (h : Closed s P) (t : Except GenerationError String) :
    P Answer (Context.answerOf t) :=
  h.bind (h.ofExcept t) fun t => h.pure (Answer.text t)

theorem answerName (h : Closed s P) {x : Naming String} (hx : P String x) :
    P Answer (Context.answerName x) :=
  h.bind hx fun t => h.pure (Answer.text t)

theorem value (h : Closed s P) (c : Context) (knowIt : Component) (view : BindingView)
    (legal : Option String) : P Answer (c.value s knowIt view legal) := by
  cases view with
  | unbound => exact h.throw _
  | resource r => exact h.answerOf _
  | reference target => exact h.answerName (h.nameOfComponent c _ legal)
  | function script =>
    simp only [Context.value, Context.callOf]
    split
    · exact h.throw _
    · exact h.bind (h.ofExcept _) fun inner => h.pure _
  | storyPoint target => exact h.answerName (h.nameOfComponent c _ legal)
  | uninitialized target => exact h.answerName (h.nameOfComponent c _ legal)
  | dialogue line => exact h.pure _

theorem bindingData (h : Closed s P) (c : Context) (key : DataKey) (legal : Option String)
    (knowIt : Component) (view : BindingView) :
    P Answer (c.bindingData s key legal knowIt view) := by
  unfold Context.bindingData
  split
  · exact h.value c knowIt view legal
  · simp only [Context.formattedValue]
    split
    · exact h.value c knowIt view legal
    · exact h.pure _
  · exact h.answerOf _
  · split
    · exact h.pure _
    · exact h.throw _
  · exact h.pure _
  · exact h.pure _
  · exact h.throw _

theorem knowItData (h : Closed s P) (c : Context) (key : DataKey) (legal : Option String)
    (knowIt : Component) : P Answer (c.knowItData s key legal knowIt) := by
  refine h.bind (h.ofExcept _) fun inner => ?_
  split
  · exact h.bindingData inner key legal _ _
  · exact h.throw _

theorem componentValue (h : Closed s P) (c : Context) (key : DataKey) (legal : Option String)
    (k : Component) : P Answer (c.componentValue s key legal k) := by
  unfold Context.componentValue
  split
  · exact h.answerName (h.componentName c k legal)
  · exact h.knowItData c key legal k
  · exact h.throw _

theorem subjectValue (h : Closed s P) (c : Context) (b : CodeBlock) (legal : Option String) :
    P Answer (c.subjectValue s b legal) := by
  unfold Context.subjectValue
  split
  · exact h.throw _
  · refine h.bind (h.ofExcept _) fun inner => ?_
    split
    · exact h.componentValue inner .value legal _
    · exact h.throw _

theorem fileData (h : Closed s P) (c : Context) (key : DataKey) : P Answer (c.fileData s key) := by
  unfold Context.fileData
  split
  · exact h.pure _
  · split
    · exact h.pure _
    · exact h.throw _
  · exact h.throw _

theorem taskData (h : Closed s P) (c : Context) (key : DataKey) (k : Component) (task : Task) :
    P Answer (c.taskData s key k task) := by
  unfold Context.taskData
  split
  · exact h.pure _
  · exact h.pure _
  · exact h.answerOf _
  · exact h.answerOf _
  · exact h.throw _

theorem scriptData (h : Closed s P) (c : Context) (key : DataKey) (legal : Option String)
    (script : ScriptIt) : P Answer (c.scriptData s key legal script) := by
  unfold Context.scriptData
  split
  · exact h.answerOf _
  · exact h.pure _
  · refine h.bind (h.ofExcept _) fun b => ?_
    split
    · exact h.pure _
    · exact h.throw _
  · exact h.bind (h.ofExcept _) fun b => h.subjectValue c b legal
  · exact h.answerOf _
  · split
    · split
      · exact h.throw _
      · split
        · exact h.pure _
        · exact h.throw _
    · exact h.throw _
  · exact h.pure _
  · exact h.pure _
  · exact h.throw _

theorem componentData (h : Closed s P) (c : Context) (key : DataKey) (legal : Option String)
    (k : Component) : P Answer (c.componentData s key legal k) := by
  unfold Context.componentData
  split
  · exact h.componentValue c _ legal k
  · exact h.componentValue c _ legal k
  · exact h.pure _
  · exact h.pure _
  · exact h.taskData c _ k _
  · exact h.scriptData c _ legal _
  · exact h.answerOf _
  · exact h.componentValue c _ legal k
  · exact h.componentValue c _ legal k
  · exact h.componentValue c _ legal k
  · exact h.componentValue c _ legal k
  · split
    · exact h.answerName (h.nameOfComponent c _ legal)
    · exact h.throw _
  · exact h.throw _

theorem blockData (h : Closed s P) (c : Context) (key : DataKey) (legal : Option String)
    (b : CodeBlock) : P Answer (c.blockData s key legal b) := by
  unfold Context.blockData
  split
  · exact h.answerOf _
  · exact h.pure _
  · exact h.pure _
  · exact h.subjectValue c b legal
  · exact h.throw _

theorem lineData (h : Closed s P) (c : Context) (key : DataKey) (line : DialogueLine) :
    P Answer (c.lineData s key line) := by
  unfold Context.lineData
  split
  · exact h.pure _
  · exact h.pure _
  · dsimp only
    split
    · exact h.pure _
    · exact h.pure _
  · exact h.answerOf _
  · exact h.pure _
  · exact h.pure _
  · exact h.pure _
  · exact h.throw _

theorem textData (h : Closed s P) (c : Context) (key : DataKey) (t : String) :
    P Answer (c.textData s key t) := by
  unfold Context.textData
  split
  · exact h.pure _
  · exact h.pure _
  · exact h.throw _

/-- Data is put together from names, texts and errors only. -/
theorem data (h : Closed s P) (c : Context) (key : DataKey) (legal : Option String) :
    P Answer (c.data s key legal) := by
  unfold Context.data
  split
  · exact h.answerName (h.name c legal)
  · exact h.pure _
  · split
    · exact h.pure _
    · exact h.throw _
  · exact h.bind (h.ofExcept _) fun point => h.answerName (h.nameOfComponent c _ legal)
  · split
    · exact h.fileData c key
    · exact h.componentData c key legal _
    · exact h.blockData c key legal _
    · exact h.bindingData c key legal _ _
    · exact h.lineData c key _
    · exact h.textData c key _

/-! ## Templates -/

variable {expand : Expand}

/-- Expanding an answer expands its parts one after another. -/
theorem resolveParts (h : Closed s P) (hexpand : ∀ c template, P String (expand c template))
    (parts : List Part) : P String (resolveParts expand parts) := by
  induction parts with
  | nil => exact h.pure _
  | cons p rest ih =>
    refine h.bind (h.ofExcept _) fun c => ?_
    refine h.bind (hexpand c p.template) fun text => ?_
    exact h.bind ih fun others => h.pure _

theorem resolveAnswer (h : Closed s P) (hexpand : ∀ c template, P String (expand c template))
    (a : Answer) : P String (resolveAnswer expand a) := by
  cases a with
  | text t => exact h.pure t
  | parts ps => exact h.resolveParts hexpand ps

theorem resolveReference (h : Closed s P) (hexpand : ∀ c template, P String (expand c template))
    (c : Context) (label : String) (legal : Option String) :
    P String (resolveReference s expand c label legal) := by
  unfold StoryLoom.resolveReference
  split
  · exact h.throw _
  · exact h.bind (h.data c _ legal) fun a => h.resolveAnswer hexpand a

theorem resolveFormat (h : Closed s P) (hexpand : ∀ c template, P String (expand c template))
    (c : Context) (id : String) (onlyFor : Option FormatTarget) :
    P String (resolveFormat s expand c id onlyFor) := by
  unfold StoryLoom.resolveFormat
  split
  · split
    · exact h.throw _
    · exact hexpand c _
  · exact h.pure _

/-! Bodies are part of their piece, so that the induction is on the template; all other templates go
through `expand`. -/

mutual

theorem resolveOne (h : Closed s P) (hexpand : ∀ c template, P String (expand c template))
    (f : Fragment) (c : Context) : P String (resolveOne s expand f c) := by
  cases f with
  | literal text => exact h.pure _
  | reference label legal => exact h.resolveReference hexpand c label legal
  | scope label name body =>
    refine h.bind (h.ofExcept _) fun inner => ?_
    exact resolveWith h hexpand body inner
  | series source separator filter unique body =>
    refine h.bind (h.ofExcept _) fun elements => ?_
    refine h.bind (h.mapM (fun element => ?_) elements) fun texts => h.pure _
    refine h.bind (h.ofExcept _) fun inner => ?_
    exact resolveWith h hexpand body inner
  | line body => exact h.bind (resolveWith h hexpand body c) fun text => h.pure _
  | indent body => exact resolveWith h hexpand body (c.indented s)
  | format id onlyFor => exact h.resolveFormat hexpand c id onlyFor
  | conditional condition body =>
    refine h.bind (h.ofExcept _) fun holds => ?_
    cases holds with
    | true => exact h.bind (resolveWith h hexpand body c) fun text => h.pure _
    | false => exact h.pure _

theorem resolveWith (h : Closed s P) (hexpand : ∀ c template, P String (expand c template))
    (template : List Fragment) (c : Context) : P String (resolveWith s expand template c) := by
  cases template with
  | nil => exact h.pure _
  | cons f rest =>
    refine h.bind (h.mapError _ (resolveOne h hexpand f c)) fun text => ?_
    exact h.bind (resolveWith h hexpand rest c) fun others => h.pure _

end

/-- What holds of the four ways to build a step holds of resolving as a whole, at every depth. -/
theorem resolveUpTo (h : Closed s P) (depth : Nat) (c : Context) (template : Template) :
    P String (resolveUpTo s depth c template) := by
  induction depth generalizing c template with
  | zero => exact h.throw _
  -- The templates inside this one have a smaller bound.
  | succ depth ih => exact h.resolveWith ih template c

end Closed
end Naming
end StoryLoom
