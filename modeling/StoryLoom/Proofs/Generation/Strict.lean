import StoryLoom.Generation.Pass
import StoryLoom.Pattern.Compile
import StoryLoom.Proofs.Dictionary.Clean
import StoryLoom.Proofs.Generation.Computation
import StoryLoom.Story.Construction

/-!
# Strict — defects that no resolution passes over

- `Fragment.Defective` : pieces that cannot be resolved anywhere
- `Dictionary.Strict`  : pieces that a template comes to in every context
- `Naming.Fails`       : computations that fail whatever names were given before
- `Defective.fails`    : a defective piece fails in every context
- `strict_defects_fail`: so does a template that comes to one

A series may be empty, a condition may not hold and a restricted format may be for other contexts, so
what is inside them need not be resolved. Lines, indented bodies, bodies of scopes and unrestricted formats
are.
-/

namespace StoryLoom

/-! ## Defects and where they are met -/

/-- What cannot be resolved anywhere: a label outside the vocabulary, a parameter asked for without its name,
a filter with an unreadable pattern, and an unrestricted format that the dictionary lacks. -/
inductive Fragment.Defective [PatternLibrary] (d : Dictionary) : Fragment → Prop
  | reference {label : String} {legal : Option String} (unknown : DataKey.parse? label = none) :
      Defective d (.reference label legal)
  | scope {label : String} {name : Option String} {body : Template}
      (unknown : ScopeKey.parse? label = none) : Defective d (.scope label name body)
  | unnamed {label : String} {key : ScopeKey} {body : Template}
      (known : ScopeKey.parse? label = some key)
      (parameter : key = .argument ∨ key = .slotParameter) : Defective d (.scope label none body)
  | series {source separator : String} {filter : SeriesFilter} {unique : Bool} {body : Template}
      (unknown : SeriesKey.parse? source = none) :
      Defective d (.series source separator filter unique body)
  | filter {source separator : String} {filter : SeriesFilter} {unique : Bool} {body : Template}
      (active : filter.criterion ≠ .none) (unreadable : ¬ LegalPattern.Readable filter.pattern) :
      Defective d (.series source separator filter unique body)
  | format {id : String} (unknown : d.format? id = none) : Defective d (.format id none)
  | conditional {condition : String} {body : Template}
      (unknown : Condition.parse? condition = none) : Defective d (.conditional condition body)

/-- The pieces that a template comes to in every context, unless it fails before. -/
inductive Dictionary.Strict (d : Dictionary) : Template → Fragment → Prop
  | here {template : Template} {f : Fragment} (among : f ∈ template) : Strict d template f
  | line {template body : Template} {f : Fragment} (among : .line body ∈ template)
      (inner : Strict d body f) : Strict d template f
  | indent {template body : Template} {f : Fragment} (among : .indent body ∈ template)
      (inner : Strict d body f) : Strict d template f
  | scope {template body : Template} {f : Fragment} {label : String} {name : Option String}
      (among : .scope label name body ∈ template) (inner : Strict d body f) : Strict d template f
  | format {template format : Template} {f : Fragment} {id : String}
      (among : .format id none ∈ template) (known : d.format? id = some format)
      (inner : Strict d format f) : Strict d template f

/-! ## Computations that fail -/

namespace Naming

variable {α β : Type}

/-- A computation that fails whatever names were given before. -/
def Fails (x : Naming α) : Prop :=
  ∀ n, ∃ e next, x n = .error e next

namespace Fails

theorem throw (e : GenerationError) : Fails (throw e : Naming α) :=
  fun n => ⟨e, n, rfl⟩

theorem ofExcept {y : Except GenerationError α} (hy : ∃ e, y = .error e) : Fails (ofExcept y) := by
  obtain ⟨e, rfl⟩ := hy
  exact throw e

theorem bind {x : Naming α} (hx : Fails x) (f : α → Naming β) : Fails (x >>= f) := by
  intro n
  obtain ⟨e, next, failed⟩ := hx n
  exact ⟨e, next, bind_of_error failed⟩

/-- What comes first fails, or leaves it to what comes then. -/
theorem bind_right {f : α → Naming β} (hf : ∀ a, Fails (f a)) (x : Naming α) : Fails (x >>= f) := by
  intro n
  cases first : x n with
  | ok a middle =>
    obtain ⟨e, next, failed⟩ := hf a middle
    exact ⟨e, next, (bind_of_ok first).trans failed⟩
  | error e next => exact ⟨e, next, bind_of_error first⟩

theorem mapError {x : Naming α} (hx : Fails x) (f : GenerationError → GenerationError) :
    Fails (mapError f x) := by
  intro n
  obtain ⟨e, next, failed⟩ := hx n
  exact ⟨f e, next, mapError_of_error failed⟩

end Fails
end Naming

/-- A step that fails in every state fails in every pass. -/
theorem Pass.run_error_of_fails {α : Type} {x : Naming α} (h : Naming.Fails x) (p : Pass) :
    ∃ e after, p.run x = (.error e, after) := by
  obtain ⟨e, next, failed⟩ := h p.namer
  exact ⟨e, { p with namer := next }, by rw [run, failed]⟩

/-! ## Defective pieces -/

section Pieces

open Naming

variable {s : Setting} {expand : Expand}

/-! A parameter is asked for by its name, wherever there are parameters. -/

namespace Context

variable {key : ScopeKey} (c : Context)

/-- A script looks its parameters up by name, so it refuses without one. -/
theorem scriptScope_unnamed (parameter : key = .argument ∨ key = .slotParameter) (k : Component)
    (script : ScriptIt) : ∃ e, c.scriptScope s key none k script = .error e := by
  rcases parameter with rfl | rfl
  · exact ⟨_, rfl⟩
  · -- The main block may be missing as well, which is noticed first.
    rw [scriptScope]
    cases c.slotParameters s script with
    | ok ids => exact ⟨_, rfl⟩
    | error e => exact ⟨e, rfl⟩

/-- Any other component has no parameters to look up. -/
theorem componentScope_unnamed (parameter : key = .argument ∨ key = .slotParameter)
    (k : Component) : ∃ e, c.componentScope s key none k = .error e := by
  unfold componentScope
  cases k.kind with
  | scriptIt script => exact c.scriptScope_unnamed parameter k script
  | storyPoint | knowIt | askIt | container | note | task | behaviour =>
    rcases parameter with rfl | rfl <;> exact ⟨_, rfl⟩

/-- No focus gives a parameter without a name. -/
theorem scope_unnamed (parameter : key = .argument ∨ key = .slotParameter) :
    ∃ e, c.scope s key none = .error e := by
  obtain ⟨focus, outer, indent⟩ := c
  cases focus with
  | component k =>
    obtain ⟨e, failed⟩ := componentScope_unnamed (s := s) ⟨.component k, outer, indent⟩ parameter k
    refine ⟨e, Eq.trans ?_ failed⟩
    rcases parameter with rfl | rfl <;> rfl
  | binding knowIt view => rcases parameter with rfl | rfl <;> cases view <;> exact ⟨_, rfl⟩
  | file | block | line | text => rcases parameter with rfl | rfl <;> exact ⟨_, rfl⟩

end Context

variable [PatternLibrary]

/-- An active filter reads its pattern before it looks at an element. -/
theorem filter_unreadable {filter : SeriesFilter} (active : filter.criterion ≠ .none)
    (unreadable : ¬ LegalPattern.Readable filter.pattern) (m : StoryModel)
    (elements : List Element) (fragment : String) :
    ∃ e, filter.apply m elements fragment = .error e := by
  rw [SeriesFilter.apply, if_neg active]
  cases compiled : LegalPattern.compile filter.pattern with
  | ok p => exact absurd ⟨p, compiled⟩ unreadable
  | error cause => exact ⟨_, rfl⟩

/-- A defective piece fails in every context. -/
theorem Fragment.Defective.fails {f : Fragment} (h : f.Defective s.dictionary) (c : Context) :
    Fails (resolveOne s expand f c) := by
  cases h with
  | reference unknown =>
    rw [resolveOne, resolveReference, unknown]
    exact .throw _
  | @scope label name body unknown =>
    rw [resolveOne]
    have refused : ∃ e, enterScope s c label name = .error e := by
      rw [enterScope, unknown]
      exact ⟨_, rfl⟩
    exact (Fails.ofExcept refused).bind _
  | @unnamed label key body known parameter =>
    rw [resolveOne]
    have refused : ∃ e, enterScope s c label none = .error e := by
      obtain ⟨e, failed⟩ := c.scope_unnamed (s := s) parameter
      refine ⟨e, ?_⟩
      simp only [enterScope, known, failed]
      rfl
    exact (Fails.ofExcept refused).bind _
  | series unknown =>
    rw [resolveOne]
    refine (Fails.ofExcept ?_).bind _
    rw [seriesElements, unknown]
    exact ⟨_, rfl⟩
  | @filter source separator filter unique body active unreadable =>
    rw [resolveOne]
    refine (Fails.ofExcept ?_).bind _
    unfold seriesElements
    -- Either the series fails before it is filtered, or its filter does.
    cases SeriesKey.parse? source with
    | none => exact ⟨_, rfl⟩
    | some key =>
      dsimp only
      cases c.series s key with
      | error e => exact ⟨e, rfl⟩
      | ok elements => exact filter_unreadable active unreadable _ _ _
  | format unknown =>
    rw [resolveOne, resolveFormat, unknown]
    exact .throw _
  | @conditional condition body unknown =>
    rw [resolveOne]
    have refused : ∃ e, conditionHolds s c condition = .error e := by
      rw [conditionHolds, unknown]
      exact ⟨_, rfl⟩
    exact (Fails.ofExcept refused).bind _

/-! ## Templates -/

/-- A template fails with any of its pieces. -/
theorem fails_of_mem {f : Fragment} {c : Context} (fails : Fails (resolveOne s expand f c)) :
    ∀ {template : Template}, f ∈ template → Fails (resolveWith s expand template c)
  | g :: rest, among => by
    rw [resolveWith]
    rcases List.mem_cons.1 among with rfl | later
    · exact (fails.mapError _).bind _
    · exact Fails.bind_right (fun _ => (fails_of_mem fails later).bind _) _

/-- Pieces that a template comes to in every context: where they fail, it does. -/
theorem Dictionary.Strict.fails {template : Template} {f : Fragment}
    (strict : s.dictionary.Strict template f) (defective : f.Defective s.dictionary) (depth : Nat)
    (c : Context) : Fails (resolveUpTo s depth c template) := by
  induction strict generalizing depth c with
  | here among =>
    cases depth with
    | zero => exact .throw _
    | succ depth => exact fails_of_mem (defective.fails c) among
  | line among _ ih =>
    cases depth with
    | zero => exact .throw _
    | succ depth =>
      refine fails_of_mem ?_ among
      rw [resolveOne]
      exact (ih defective (depth + 1) c).bind _
  | indent among _ ih =>
    cases depth with
    | zero => exact .throw _
    | succ depth =>
      refine fails_of_mem ?_ among
      rw [resolveOne]
      exact ih defective (depth + 1) _
  | scope among _ ih =>
    cases depth with
    | zero => exact .throw _
    | succ depth =>
      refine fails_of_mem ?_ among
      rw [resolveOne]
      exact Fails.bind_right (fun inner => ih defective (depth + 1) inner) _
  | format among known _ ih =>
    cases depth with
    | zero => exact .throw _
    | succ depth =>
      -- The format is a template of its own, which is one level deeper.
      refine fails_of_mem ?_ among
      rw [resolveOne, resolveFormat, known]
      exact ih defective depth c

end Pieces

namespace Pass

/-- A template that comes to a defect in every context is never resolved: not against any context, not with
any names given before, and not at any bound on the templates inside each other. -/
theorem strict_defects_fail [PatternLibrary] (p : Pass) (template : Template) (f : Fragment)
    (strict : p.setting.dictionary.Strict template f)
    (defective : f.Defective p.setting.dictionary) (c : Context) :
    (∃ e after, p.run (StoryLoom.resolve p.setting template c) = (.error e, after)) ∧
      ∀ depth, ∃ e after, p.run (resolveUpTo p.setting depth c template) = (.error e, after) :=
  ⟨run_error_of_fails (strict.fails defective _ c) p,
    fun depth => run_error_of_fails (strict.fails defective depth c) p⟩

open Libraries

/-- A dictionary with a format that asks for a parameter without its name. -/
def namelessDictionary : Dictionary where
  name := "Plain"
  formats := .ofList [("call", [.indent [.scope "Argument" none [.ref "name"]]])]

/-- The format is come to within a line. -/
theorem nameless_parameter_fails :
    let p := Pass.start (StoryModel.start "Start") namelessDictionary ⟨"main", none⟩ {}
    let template : Template := [.literal "call ", .line [.format "call" none]]
    let parameter : Fragment := .scope "Argument" none [.ref "name"]
    p.setting.dictionary.Strict template parameter ∧ parameter.Defective p.setting.dictionary ∧
      ∃ e after, p.run (StoryLoom.resolve p.setting template { focus := .text "door" }) =
        (.error e, after) := by
  intro p template parameter
  have known : p.setting.dictionary.format? "call" = some [.indent [parameter]] := rfl
  have strict : p.setting.dictionary.Strict template parameter := by
    refine .line (List.mem_cons_of_mem _ (List.mem_singleton_self _)) ?_
    refine .format (List.mem_singleton_self _) known ?_
    exact .indent (List.mem_singleton_self _) (.here (List.mem_singleton_self _))
  have defective : parameter.Defective p.setting.dictionary := .unnamed rfl (.inl rfl)
  exact ⟨strict, defective,
    (strict_defects_fail p template parameter strict defective { focus := .text "door" }).1⟩

end Pass
end StoryLoom
