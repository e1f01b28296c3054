import StoryLoom.Generation.Context
import StoryLoom.Proofs.Story.Keyed

/-!
# Reach — the contexts that a pass can make

- `Context.Reachable` : contexts made from that of the whole script
- `Focus.Stored`      : a focus on objects of the story
- `Reachable.stored`  : all foci of such a context are on objects of the story
-/

namespace StoryLoom

/-- The contexts that can be made from that of the whole script. -/
inductive Context.Reachable (s : Setting) : Context → Prop
  | root {c : Context} (started : Context.root s = .ok c) : Reachable s c
  | enter {c inner : Context} {element : Element} (outer : Reachable s c)
      (entered : c.enter s element = .ok inner) : Reachable s inner
  | indented {c : Context} (outer : Reachable s c) : Reachable s (c.indented s)

/-- The objects of a focus are those of the story, a variable's value included. -/
def Focus.Stored (m : StoryModel) : Focus → Prop
  | .file root => ∃ id, m.component? id = some root
  | .component k => ∃ id, m.component? id = some k
  | .block b => ∃ id, m.codeBlock? id = some b
  | .binding knowIt view => (∃ id, m.component? id = some knowIt) ∧
      ∃ v, knowIt.knowIt? = some v ∧ BindingView.of? m v.binding = some view
  | .line l => ∃ id, m.line? id = some l
  | .text _ => True

theorem Focus.Stored.component?_of_storyPoint? {m : StoryModel} {f : Focus} {k : Component}
    (stored : f.Stored m) (h : f.storyPoint? = some k) : ∃ id, m.component? id = some k := by
  cases f with
  | file root =>
    cases h
    exact stored
  | component k' =>
    simp only [Focus.storyPoint?] at h
    split at h
    · cases h
      exact stored
    · cases h
  | block b => cases h
  | binding knowIt view => cases h
  | line l => cases h
  | text t => cases h

namespace Context

variable {s : Setting} {c inner : Context}

/-- What is entered by an id is stored under it. -/
theorem stored_of_focusOn {element : Element} {f : Focus} (h : c.focusOn s element = .ok f) :
    f.Stored s.model := by
  cases element with
  | component id =>
    cases hk : s.model.component? id with
    | none => simp [focusOn, hk] at h
    | some k =>
      simp only [focusOn, hk] at h
      cases h
      exact ⟨id, hk⟩
  | codeBlock id =>
    cases hb : s.model.codeBlock? id with
    | none => simp [focusOn, hb] at h
    | some b =>
      simp only [focusOn, hb] at h
      cases h
      exact ⟨id, hb⟩
  | binding id =>
    cases hk : s.model.component? id with
    | none => simp [focusOn, hk] at h
    | some k =>
      cases hv : k.knowIt? with
      | none => simp [focusOn, hk, hv] at h
      | some v =>
        cases hview : BindingView.of? s.model v.binding with
        | none => simp [focusOn, hk, hv, hview] at h
        | some view =>
          simp only [focusOn, hk, hv, hview] at h
          cases h
          exact ⟨⟨id, hk⟩, v, hv, hview⟩
  | line id =>
    cases hl : s.model.line? id with
    | none => simp [focusOn, hl] at h
    | some l =>
      simp only [focusOn, hl] at h
      cases h
      exact ⟨id, hl⟩
  | text t =>
    cases h
    trivial

/-- An entered context is the focus on its element inside the context it was entered from. -/
theorem enter_eq_ok_iff {element : Element} :
    c.enter s element = .ok inner ↔ ∃ f, c.focusOn s element = .ok f ∧ inner = c.inside f := by
  cases h : c.focusOn s element <;> simp [enter, h, Except.map, eq_comm]

/-- A stored component is entered as itself. -/
theorem enter_component {id : ComponentId} {k : Component} (found : s.model.component? id = some k) :
    c.enter s (.component id) = .ok (c.inside (.component k)) := by
  rw [enter, focusOn, found]
  rfl

/-- All foci of a context that can be made are on objects of the story. -/
theorem Reachable.stored (h : c.Reachable s) : ∀ f ∈ c.focus :: c.outer, f.Stored s.model := by
  induction h with
  | @root c started =>
    have point : ∃ k, s.model.component? s.model.root = some k ∧ c = { focus := .file k } := by
      unfold Context.root at started
      split at started
      · cases started
      · next k hk =>
        split at started
        · cases started
          exact ⟨k, hk, rfl⟩
        · cases started
    obtain ⟨k, hk, rfl⟩ := point
    intro f hf
    rw [List.mem_singleton.1 hf]
    exact ⟨s.model.root, hk⟩
  | enter outer entered ih =>
    -- The new focus was just looked up, and those around it were there before.
    obtain ⟨f, hf, rfl⟩ := enter_eq_ok_iff.1 entered
    intro g hg
    rcases List.mem_cons.1 hg with rfl | hg
    · exact stored_of_focusOn hf
    · exact ih g hg
  | indented outer ih => exact ih

/-- A context that can be reached stands on an entry of the model. -/
theorem Reachable.focus_stored (h : c.Reachable s) : c.focus.Stored s.model :=
  h.stored c.focus List.mem_cons_self

/-- The nearest story point of a context that can be made is a component of the story. -/
theorem Reachable.component?_of_storyPoint? (h : c.Reachable s) {k : Component}
    (point : c.storyPoint? s = some k) : ∃ id, s.model.component? id = some k := by
  unfold Context.storyPoint? at point
  cases hfound : (c.focus :: c.outer).findSome? Focus.storyPoint? with
  | some k' =>
    rw [hfound] at point
    cases point
    obtain ⟨f, hf, hk⟩ := List.exists_of_findSome?_eq_some hfound
    exact (h.stored f hf).component?_of_storyPoint? hk
  | none =>
    rw [hfound] at point
    obtain ⟨id, -, hk⟩ := Option.bind_eq_some_iff.1 point
    exact StoryModel.component?_of_enclosing? hk

end Context
end StoryLoom
