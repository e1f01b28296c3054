import StoryLoom.Pattern.Compile
import StoryLoom.Proofs.Generation.Origin

/-!
# Enclosed — what stands around a context

- `Focus.IsScript`, `Focus.IsPoint` : a focus on the whole script, and on a story point
- `Context.InScript`     : the foci around a context end in that on the whole script
- `Context.NearestPoint` : the first story point from the inside out
- `Site.Enters.reachable`, `Site.Refuses.surroundings` : one step of a run, and the one error left
- `script_encloses_contexts` : the story point around a context, and the owner that only the script lacks

A context is made from the one around it or is that one with a deeper indent. So the whole script stays the
outermost focus along every run, and a story point is always found before the owner links of the story are asked.
-/

namespace StoryLoom

/-! ## Foci -/

theorem Component.isSome_storyPoint?_iff {k : Component} :
    k.storyPoint?.isSome ↔ ∃ point, k.kind = .storyPoint point := by
  unfold storyPoint?
  cases k.kind <;> simp

namespace Focus

def IsScript : Focus → Prop
  | file _ => True
  | _ => False

/-- A focus on a story point, be it as a component or as the whole script. -/
inductive IsPoint : Focus → Component → Prop
  | file {root : Component} : IsPoint (.file root) root
  | component {k : Component} {point : StoryPoint} (kind : k.kind = .storyPoint point) :
      IsPoint (.component k) k

variable {f : Focus} {k : Component}

/-- A focus has a story point exactly if it stands on one. -/
theorem storyPoint?_eq_some_iff : f.storyPoint? = some k ↔ f.IsPoint k := by
  constructor
  · intro found
    cases f with
    | file root =>
      cases found
      exact .file
    | component k' =>
      simp only [storyPoint?] at found
      split at found
      · next isPoint =>
        cases found
        obtain ⟨point, kind⟩ := Component.isSome_storyPoint?_iff.1 isPoint
        exact .component kind
      · cases found
    | block b | binding knowIt view | line l | text t => cases found
  · intro isPoint
    cases isPoint with
    | file => rfl
    | component kind => exact if_pos (Component.isSome_storyPoint?_iff.2 ⟨_, kind⟩)

theorem storyPoint?_eq_none_iff : f.storyPoint? = none ↔ ∀ k, ¬ f.IsPoint k := by
  rw [Option.eq_none_iff_forall_ne_some]
  exact forall_congr' fun k => not_congr storyPoint?_eq_some_iff

end Focus

namespace Context

/-! ## The foci around a context -/

/-- The foci of a context from the inside out. -/
def chain (c : Context) : List Focus :=
  c.focus :: c.outer

/-- The foci of a context end in that on the root of the story as the whole script. None before is on it. -/
def InScript (s : Setting) (c : Context) : Prop :=
  ∃ inner root, c.chain = inner ++ [.file root] ∧ (∀ f ∈ inner, ¬ f.IsScript) ∧
    s.model.component? s.model.root = some root ∧ root.storyPoint?.isSome

/-- A story point among the foci of a context, with none further inside. -/
def NearestPoint (c : Context) (k : Component) : Prop :=
  ∃ before f after, c.chain = before ++ f :: after ∧ f.IsPoint k ∧ ∀ g ∈ before, ∀ k', ¬ g.IsPoint k'

variable {s : Setting} {c inner : Context}

/-- No element leads to the whole script: its root is entered as a component. -/
theorem not_isScript_of_focusOn {element : Element} {f : Focus} (found : c.focusOn s element = .ok f) :
    ¬ f.IsScript := by
  intro isScript
  cases f with
  | file root =>
    -- No element leads to the whole script: the root is entered as a component.
    cases element with
    | component id | codeBlock id | line id =>
      simp only [focusOn] at found
      split at found <;> cases found
    | binding id =>
      simp only [focusOn] at found
      repeat' split at found
      all_goals cases found
    | text t => cases found
  | component k | block b | binding knowIt view | line l | text t => exact isScript

/-- Each way to make a context keeps the whole script outermost. -/
theorem Reachable.inScript (h : c.Reachable s) : c.InScript s := by
  induction h with
  | @root c started =>
    unfold Context.root at started
    split at started
    · cases started
    · next k stored =>
      split at started
      · next isPoint =>
        cases started
        exact ⟨[], k, rfl, by simp, stored, isPoint⟩
      · cases started
  | enter outer entered ih =>
    obtain ⟨inner, root, ends, noScript, stored, isPoint⟩ := ih
    obtain ⟨f, found, rfl⟩ := enter_eq_ok_iff.1 entered
    refine ⟨f :: inner, root, congrArg (f :: ·) ends, ?_, stored, isPoint⟩
    exact List.forall_mem_cons.2 ⟨not_isScript_of_focusOn found, noScript⟩
  | indented outer ih => exact ih

/-- What is on the whole script has nothing around it, and the other way round. -/
theorem InScript.isScript_iff (h : c.InScript s) : c.focus.IsScript ↔ c.outer = [] := by
  obtain ⟨inner, root, ends, noScript, -, -⟩ := h
  cases inner with
  | nil =>
    have split : c.focus = .file root ∧ c.outer = [] := List.cons.inj ends
    have isScript : c.focus.IsScript := split.1 ▸ trivial
    exact iff_of_true isScript split.2
  | cons f rest =>
    have split : c.focus = f ∧ c.outer = rest ++ [.file root] := List.cons.inj ends
    have notScript : ¬ c.focus.IsScript := split.1 ▸ noScript f List.mem_cons_self
    have around : c.outer ≠ [] := by simp [split.2]
    exact iff_of_false notScript around

/-- The search along the chain finds the nearest point. -/
theorem findSome?_chain_iff {k : Component} :
    c.chain.findSome? Focus.storyPoint? = some k ↔ c.NearestPoint k := by
  rw [List.findSome?_eq_some_iff]
  simp only [Focus.storyPoint?_eq_some_iff, Focus.storyPoint?_eq_none_iff, NearestPoint]

/-- The whole script, at the end of the chain, is a story point itself. -/
theorem InScript.exists_nearestPoint (h : c.InScript s) : ∃ k, c.NearestPoint k := by
  obtain ⟨inner, root, ends, -, -, -⟩ := h
  have found : (c.chain.findSome? Focus.storyPoint?).isSome := by
    rw [ends, List.findSome?_isSome_iff]
    exact ⟨.file root, by simp, rfl⟩
  obtain ⟨k, nearest⟩ := Option.isSome_iff_exists.1 found
  exact ⟨k, findSome?_chain_iff.1 nearest⟩

/-- Where a story point is around the context, the owner links of the story are not asked. -/
theorem NearestPoint.storyPoint? {k : Component} (nearest : c.NearestPoint k) : c.storyPoint? s = some k := by
  have found : (c.focus :: c.outer).findSome? Focus.storyPoint? = some k := findSome?_chain_iff.2 nearest
  rw [Context.storyPoint?, found]

/-- The context answers with the point found on its chain. -/
theorem NearestPoint.storyPoint {k : Component} (nearest : c.NearestPoint k) : c.storyPoint s = .ok k := by
  rw [Context.storyPoint, nearest.storyPoint?]

/-! ## What still fails for the surroundings -/

/-- Asking for the owner fails on the whole script and nowhere else. -/
theorem InScript.owner_eq_error_iff (h : c.InScript s) {e : GenerationError} :
    c.owner s = .error e ↔ c.focus.IsScript ∧ e = ⟨.noOwner (c.describe s), none⟩ := by
  rw [h.isScript_iff]
  unfold owner
  split <;> simp_all [eq_comm]

/-- A scope complains about the surroundings only if the owner was asked for and is missing. -/
theorem InScript.scope_surroundings (h : c.InScript s) {key : ScopeKey} {name : Option String}
    {e : GenerationError} (failed : c.scope s key name = .error e) (around : e.problem.OfSurroundings) :
    key = .owner ∧ c.owner s = .error e := by
  by_cases asksOwner : key = .owner
  · rw [asksOwner] at failed
    exact ⟨asksOwner, failed⟩
  · by_cases asksPoint : key = .storyPoint
    · -- The story point is found, so that this scope does not fail.
      obtain ⟨k, nearest⟩ := h.exists_nearestPoint
      rw [asksPoint, scope, nearest.storyPoint] at failed
      cases failed
    · have inward : Inward none (c.scope s key name) := c.inward_scope asksOwner asksPoint name
      exact absurd around (inward e failed).2

/-- A scope turns to a context that is entered. -/
theorem exists_of_enterScope {label : String} {name : Option String}
    (entered : enterScope s c label name = .ok inner) : ∃ element, c.enter s element = .ok inner := by
  unfold enterScope at entered
  split at entered
  · cases entered
  · next key _ =>
    cases turned : c.scope s key name with
    | error e =>
      rw [turned] at entered
      cases entered
    | ok element =>
      rw [turned] at entered
      exact ⟨element, entered⟩

/-- Entering a scope complains about the surroundings in no other case. -/
theorem InScript.enterScope_surroundings (h : c.InScript s) {label : String} {name : Option String}
    {e : GenerationError} (failed : enterScope s c label name = .error e)
    (around : e.problem.OfSurroundings) :
    ScopeKey.parse? label = some .owner ∧ c.owner s = .error e := by
  unfold enterScope at failed
  split at failed
  · cases failed
    exact absurd around id
  · next key parsed =>
    cases turned : c.scope s key name with
    | error e' =>
      rw [turned] at failed
      cases failed
      obtain ⟨rfl, refused⟩ := h.scope_surroundings turned around
      exact ⟨parsed, refused⟩
    | ok element =>
      rw [turned] at failed
      have inward : Inward none (c.enter s element) := c.inward_enter element
      exact absurd around (inward e failed).2

variable [PatternLibrary]

/-- Data fails on a name or for the object asked, since the story point around it is found. -/
theorem InScript.blames_data (h : c.InScript s) (legal : Option String) (key : DataKey) :
    Naming.Blames s legal (c.AsksName s key) (Answer.IsInside s c) (c.data s key legal) := by
  obtain ⟨k, nearest⟩ := h.exists_nearestPoint
  exact Context.blames_data legal c fun _ => ⟨k, nearest.storyPoint⟩

/-- What a value is made from stands inside the context, or fails for the object that it would stand on. -/
theorem InScript.isInside_of_data (h : c.InScript s) {key : DataKey} {legal : Option String} {n next : Namer}
    {a : Answer} (valued : c.data s key legal n = .ok a next) : a.IsInside s c :=
  (h.blames_data legal key).ok n a next valued

/-- So no data complains about the surroundings. -/
theorem InScript.data_surroundings (h : c.InScript s) {key : DataKey} {legal : Option String}
    {n next : Namer} {e : GenerationError} (failed : c.data s key legal n = .error e next) :
    ¬ e.problem.OfSurroundings := by
  rcases (h.blames_data legal key).error n e next failed with inward | ⟨q, cause, -, rfl, -⟩
  · exact inward.2
  · exact id

end Context

/-! ## Along a run -/

namespace Site

variable [PatternLibrary] {s : Setting} {x y : Site}

/-- The pieces of a template stand in the context of the template. -/
theorem Reached.context_eq {room : Nat} {c : Context} {template : Template} {n : Namer}
    (reached : Reached s room c template n x) : x.context = c := by
  induction reached with
  | here => rfl
  | after done later ih => exact ih

/-- The sites inside a site stand in contexts that are made from its own. -/
theorem Enters.reachable (enters : Enters s x y) (h : x.context.Reachable s) : y.context.Reachable s := by
  cases enters with
  | scope entered reached =>
    obtain ⟨element, entered⟩ := Context.exists_of_enterScope entered
    rw [reached.context_eq]
    exact .enter h entered
  | series walked done entered reached =>
    rw [reached.context_eq]
    exact .enter h entered
  | line reached | conditional holds reached | format applies known reached =>
    rw [reached.context_eq]
    exact h
  | indent reached =>
    rw [reached.context_eq]
    exact .indented h
  | reference known valued done entered reached =>
    have parts := h.inScript.isInside_of_data valued
    obtain ⟨-, below⟩ := parts _ (List.mem_append_right _ List.mem_cons_self)
    rw [reached.context_eq]
    exact Context.Reachable.inside h (below _ entered)

/-- Going from piece to piece leads to contexts that can be reached. -/
theorem reachable_of_trail (trail : Relation.ReflTransGen (Enters s) x y) (h : x.context.Reachable s) :
    y.context.Reachable s := by
  induction trail with
  | refl => exact h
  | tail _ enters ih => exact enters.reachable ih

/-- Of the pieces, only a scope that turns to the owner fails for what is around its context. -/
theorem Refuses.surroundings {e : GenerationError} {next : Namer} (refused : Refuses s x e next)
    (h : x.context.InScript s) (around : e.problem.OfSurroundings) :
    ∃ label name body, x.piece = .scope label name body ∧ ScopeKey.parse? label = some .owner ∧
      x.context.owner s = .error e := by
  cases refused with
  | label unknown => exact absurd around id
  | value known failed => exact absurd around (h.data_surroundings failed)
  | part known valued done failed =>
    have parts := h.isInside_of_data valued
    obtain ⟨inward, -⟩ := parts _ (List.mem_append_right _ List.mem_cons_self)
    exact absurd around (inward e failed).2
  | partTooDeep known valued done entered => exact absurd around id
  | scope failed => exact ⟨_, _, _, rfl, h.enterScope_surroundings failed around⟩
  | series failed => exact absurd around (inward_seriesElements s _ _ _ _ _ e failed).2
  | @element room source separator filter unique body c n next before after element texts e walked done failed =>
    have inward : Inward none (c.enter s element) := c.inward_enter element
    exact absurd around (inward e failed).2
  | conditional failed => exact absurd around (inward_conditionHolds s _ _ e failed).2
  | format applies unknown => exact absurd around id
  | formatTooDeep applies known => exact absurd around id

end Site

/-- The foci around a context that a pass can make end in that on the whole script, and what stands nearest
among them decides the story point: the owner links of the story are never asked for it. So only the owner is
ever missing around a context, and a template can fail for it only where the context is the whole script. -/
theorem script_encloses_contexts [PatternLibrary] {s : Setting} {c : Context} (h : c.Reachable s) :
    c.InScript s ∧
    (∃ k, c.NearestPoint k ∧ c.chain.findSome? Focus.storyPoint? = some k ∧ c.storyPoint? s = some k ∧
      (∀ name, c.scope s .storyPoint name = .ok (.component k.id)) ∧
      ∀ legal, c.data s .currentStoryPoint legal = Context.answerName (c.nameOfComponent s k.id legal)) ∧
    (∀ key legal n e next, c.data s key legal n = .error e next → ¬ e.problem.OfSurroundings) ∧
    (∀ e, ((∃ key, c.series s key = .error e) ∨ (∃ key, c.condition s key = .error e) ∨
      ∃ element, c.enter s element = .error e) → ¬ e.problem.OfSurroundings) ∧
    (∀ key name e, c.scope s key name = .error e → e.problem.OfSurroundings →
      key = .owner ∧ c.owner s = .error e) ∧
    (∀ e, c.owner s = .error e ↔
      c.focus.IsScript ∧ c.outer = [] ∧ e = ⟨.noOwner (c.describe s), none⟩) ∧
    ∀ template n e next, resolve s template c n = .error e next → e.problem.OfSurroundings →
      ∃ last label name body,
        Site.RaisedAt s template c n last ⟨.noOwner (last.context.describe s), none⟩ next ∧
        last.piece = .scope label name body ∧ ScopeKey.parse? label = some .owner ∧
        last.context.Reachable s ∧ last.context.focus.IsScript ∧ last.context.outer = [] ∧
        e = ⟨.noOwner (last.context.describe s), some last.piece.describe⟩ := by
  have inScript : c.InScript s := h.inScript
  refine ⟨inScript, ?_, fun key legal n e next => inScript.data_surroundings, ?_,
    fun key name e => inScript.scope_surroundings, ?_, ?_⟩
  · obtain ⟨k, nearest⟩ := inScript.exists_nearestPoint
    refine ⟨k, nearest, Context.findSome?_chain_iff.2 nearest, nearest.storyPoint?, ?_, ?_⟩
    · intro name
      rw [Context.scope, nearest.storyPoint]
      rfl
    · intro legal
      rw [Context.data, nearest.storyPoint, Naming.ofExcept_ok_bind]
  · rintro e (⟨key, failed⟩ | ⟨key, failed⟩ | ⟨element, failed⟩)
    · have inward : Inward none (c.series s key) := c.inward_series key
      exact (inward e failed).2
    · have inward : Inward none (c.condition s key) := c.inward_condition key
      exact (inward e failed).2
    · have inward : Inward none (c.enter s element) := c.inward_enter element
      exact (inward e failed).2
  · intro e
    rw [inScript.owner_eq_error_iff, ← inScript.isScript_iff]
    simp only [and_self_left]
  · intro template n e next failed around
    obtain ⟨first, reached, there⟩ := Site.resolveWith_error_iff.1 failed
    obtain ⟨last, cause, trail, refused, rfl⟩ := first.exists_of_noted_error e there
    -- From the context of the template to that of the site that fails, every step enters or indents.
    have started : first.context.Reachable s := reached.context_eq ▸ h
    have reachable : last.context.Reachable s := Site.reachable_of_trail trail started
    obtain ⟨label, name, body, piece, parsed, asked⟩ := refused.surroundings reachable.inScript around
    obtain ⟨isScript, rfl⟩ := reachable.inScript.owner_eq_error_iff.1 asked
    exact ⟨last, label, name, body, ⟨first, reached, trail, refused⟩, piece, parsed, reachable, isScript,
      reachable.inScript.isScript_iff.1 isScript, rfl⟩

open Libraries

/-- The whole script as `boundSetting` has it. -/
def boundScript : Context where
  focus := .file ⟨⟨0⟩, "Start", none, .storyPoint { children := [⟨1⟩, ⟨2⟩] }⟩

/-- Its variable that is bound, entered from the script one level deeper. -/
def boundVariable : Context :=
  (boundScript.indented boundSetting).inside boundContext.focus

/-- A variable finds the script as its nearest story point. The script itself has no owner, however deep it is
indented. -/
theorem script_has_no_owner :
    boundVariable.Reachable boundSetting ∧
    (∃ k, boundVariable.NearestPoint k ∧ k.text = "Start") ∧
    ∃ last next, Site.RaisedAt boundSetting [.indent [.scope "owner" none []]] boundScript
        { reserved := [], maxAttempts := 0 } last ⟨.noOwner "file context for 'Start' at main", none⟩ next ∧
      last.context.focus.IsScript := by
  have script : boundScript.Reachable boundSetting := .root rfl
  have within : (boundScript.indented boundSetting).enterComponent boundSetting ⟨2⟩ = .ok boundVariable := rfl
  have entered : boundVariable.Reachable boundSetting := .enter (.indented script) within
  refine ⟨entered, ?_, ?_⟩
  · obtain ⟨-, ⟨k, nearest, -, found, -⟩, -⟩ := script_encloses_contexts entered
    cases found
    exact ⟨_, nearest, rfl⟩
  · let names : Namer := { reserved := [], maxAttempts := 0 }
    have told : (match resolve boundSetting [.indent [.scope "owner" none []]] boundScript names with
        | .ok _ _ => none
        | .error e _ => some e.problem) = some (.noOwner "file context for 'Start' at main") := by
      decide +kernel
    obtain ⟨-, -, -, -, -, -, fails⟩ := script_encloses_contexts script
    cases failed : resolve boundSetting [.indent [.scope "owner" none []]] boundScript names with
    | ok text next =>
      rw [failed] at told
      cases told
    | error e next =>
      rw [failed] at told
      have problem : e.problem = .noOwner "file context for 'Start' at main" := Option.some.inj told
      have around : e.problem.OfSurroundings := problem ▸ trivial
      obtain ⟨last, label, name, body, raised, -, -, -, isScript, -, rfl⟩ := fails _ names e next failed around
      exact ⟨last, next, problem ▸ raised, isScript⟩

end StoryLoom
