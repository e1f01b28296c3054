import StoryLoom.Generation.Selection
import StoryLoom.Pattern.Compile
import StoryLoom.Proofs.List.EraseDups

/-!
# Unique — series without repetitions, and filtering them by name

- `ValueKey.shown?`  : the text that elements of a value show
- `keepMatching_eq`  : a filter by name is a filter, unless an element does not exist
- `unique_by_name`   : what is left of a series, and that it can be filtered before or after

Only texts, components and lines are looked at by what their value shows. The values of variables and
blocks do not say the text that a filter looks at.
-/

namespace StoryLoom

/-- A text, a component or a dialogue line. -/
def Element.IsShown : Element → Prop
  | .text _ => True
  | .component _ => True
  | .line _ => True
  | .binding _ => False
  | .codeBlock _ => False

/-- The text that elements of a value show; `none` if they do not exist. -/
def ValueKey.shown? (m : StoryModel) : ValueKey → Option String
  | .text t => some t
  | .component _ t _ => some t
  | .line id => (m.line? id).map DialogueLine.text
  | .binding _ => none
  | .codeBlock _ _ _ _ _ => none
  | .unresolved _ => none

def Element.shown? (m : StoryModel) (e : Element) : Option String :=
  (valueKey m e).shown? m

variable {m : StoryModel} {l : List Element}

/-- A filter by name looks at the text that an element shows. -/
theorem comparedTexts_eq {e : Element} (shown : e.IsShown) : comparedTexts m false e =
    match e.shown? m with
    | some t => .ok [t]
    | none => .error (.dangling e) := by
  cases e with
  | text t => rfl
  | component id =>
    cases h : m.component? id <;> simp [comparedTexts, Element.shown?, valueKey, h, ValueKey.shown?]
  | line id =>
    cases h : m.line? id <;> simp [comparedTexts, Element.shown?, valueKey, h, ValueKey.shown?]
  | binding id => cases shown
  | codeBlock id => cases shown

/-- What shows is the same for all that count as the same. -/
theorem shown?_eq {a b : Element} (same : decide (valueKey m a = valueKey m b) = true) :
    a.shown? m = b.shown? m :=
  congrArg (ValueKey.shown? m) (of_decide_eq_true same)

section ByName

variable [PatternLibrary] {p : LegalPattern}

/-- A filter by name fails at the first element that shows nothing, or else keeps what shows a text that
the pattern accepts. -/
theorem keepMatching_eq (shown : ∀ e ∈ l, e.IsShown) : keepMatching m false p l =
    match l.find? (fun e => (e.shown? m).isNone) with
    | some e => .error (.dangling e)
    | none => .ok (l.filter fun e => (e.shown? m).any p.isLegal) := by
  induction l with
  | nil => rfl
  | cons e rest ih =>
    have others := ih fun e he => shown e (List.mem_cons_of_mem _ he)
    -- An element that does not exist is reported before the rest is looked at.
    rw [keepMatching, comparedTexts_eq (shown e List.mem_cons_self), others, List.find?_cons, List.filter_cons]
    cases here : e.shown? m with
    | none => rfl
    | some t =>
      cases rest.find? (fun e => (e.shown? m).isNone) with
      | some missing => rfl
      | none => cases legal : p.isLegal t <;> simp [legal, bind, Except.bind, pure, Except.pure]

/-- The filter of a name before or after repetitions are dropped. -/
theorem keepMatching_uniquify (shown : ∀ e ∈ l, e.IsShown) :
    keepMatching m false p (uniquify m l) = (keepMatching m false p l).map (uniquify m) := by
  have left : ∀ e ∈ uniquify m l, e.IsShown := fun e he => shown e (EraseDups.mem_of_mem_eraseDupsBy he)
  -- Both what is missing and what is kept are read off the value.
  have missing : (uniquify m l).find? (fun e => (e.shown? m).isNone) =
      l.find? (fun e => (e.shown? m).isNone) :=
    EraseDups.find?_eraseDupsBy fun a _ b _ same => by rw [shown?_eq same]
  have kept : (uniquify m l).filter (fun e => (e.shown? m).any p.isLegal) =
      uniquify m (l.filter fun e => (e.shown? m).any p.isLegal) :=
    EraseDups.filter_eraseDupsBy fun a _ b _ same => by rw [shown?_eq same]
  rw [keepMatching_eq left, keepMatching_eq shown, missing, kept]
  cases l.find? (fun e => (e.shown? m).isNone) with
  | some e => rfl
  | none => rfl

variable (pattern fragment : String)

/-- The filter by name reads its pattern and tests the texts. -/
theorem apply_byName : (SeriesFilter.byName pattern).apply m l fragment =
    match LegalPattern.compile pattern with
    | .error cause => .error ⟨.badFilter pattern cause, some fragment⟩
    | .ok p => keepMatching m false p l := by
  have named : (SeriesFilter.byName pattern).criterion ≠ .none := nofun
  exact if_neg named

variable (shown : ∀ e ∈ l, e.IsShown)

include shown

/-- Series can be filtered by name before or after repetitions are dropped. -/
theorem apply_uniquify : (SeriesFilter.byName pattern).apply m (uniquify m l) fragment =
    ((SeriesFilter.byName pattern).apply m l fragment).map (uniquify m) := by
  rw [apply_byName, apply_byName]
  cases LegalPattern.compile pattern with
  | error cause => rfl
  | ok p => exact keepMatching_uniquify shown

/-- A filter by name fails for two reasons only. -/
theorem apply_eq_error_iff {error : GenerationError} :
    (SeriesFilter.byName pattern).apply m l fragment = .error error ↔
      (∃ cause, LegalPattern.compile pattern = .error cause ∧
        error = ⟨.badFilter pattern cause, some fragment⟩) ∨
      ∃ p e, LegalPattern.compile pattern = .ok p ∧
        l.find? (fun e => (e.shown? m).isNone) = some e ∧ error = .dangling e := by
  rw [apply_byName]
  cases LegalPattern.compile pattern with
  | error cause => simp [eq_comm]
  | ok p =>
    simp only [keepMatching_eq shown]
    cases l.find? (fun e => (e.shown? m).isNone) <;> simp [eq_comm]

end ByName

/-- What is left of a series has no value twice, and at each place leaves out just what has the value of
something kept before. Texts, components and lines are filtered by name before or after with the same
outcome: what fails is an unreadable pattern, or else the first element that does not exist. -/
theorem unique_by_name [PatternLibrary] (m : StoryModel) :
    (∀ l : List Element, (uniquify m l).Sublist l ∧
      (uniquify m l).Pairwise (fun a b => valueKey m a ≠ valueKey m b) ∧
      uniquify m (uniquify m l) = uniquify m l) ∧
    (∀ (before : List Element) (e : Element) (after : List Element),
      ((∃ kept ∈ uniquify m before, valueKey m kept = valueKey m e) →
        uniquify m (before ++ [e]) = uniquify m before) ∧
      ((∀ kept ∈ uniquify m before, valueKey m kept ≠ valueKey m e) →
        uniquify m (before ++ [e]) = uniquify m before ++ [e]) ∧
      uniquify m (before ++ [e]) <+: uniquify m (before ++ [e] ++ after)) ∧
    (∀ (l : List Element) (pattern fragment : String), (∀ e ∈ l, e.IsShown) →
      (SeriesFilter.byName pattern).apply m (uniquify m l) fragment =
        ((SeriesFilter.byName pattern).apply m l fragment).map (uniquify m) ∧
      ∀ error, (SeriesFilter.byName pattern).apply m l fragment = .error error ↔
        (∃ cause, LegalPattern.compile pattern = .error cause ∧
          error = ⟨.badFilter pattern cause, some fragment⟩) ∨
        ∃ p e, LegalPattern.compile pattern = .ok p ∧
          l.find? (fun e => (e.shown? m).isNone) = some e ∧ error = .dangling e) := by
  refine ⟨?_, ?_, ?_⟩
  · intro l
    have apart := EraseDups.pairwise_eraseDupsBy (fun a b => decide (valueKey m a = valueKey m b)) l
    refine ⟨EraseDups.sublist_eraseDupsBy _ l, ?_, EraseDups.eraseDupsBy_of_pairwise apart⟩
    exact apart.imp fun {a b} apart same => of_decide_eq_false apart (Eq.symm same)
  · intro before e after
    -- Whether an element stays depends on those kept before it alone.
    have next := EraseDups.eraseDupsBy_concat (fun a b => decide (valueKey m a = valueKey m b)) e before
    refine ⟨?_, ?_, EraseDups.prefix_eraseDupsBy _ _ _⟩
    · rintro ⟨kept, among, same⟩
      exact next.trans (if_pos (List.any_eq_true.2 ⟨kept, among, decide_eq_true same.symm⟩))
    · intro other
      refine next.trans (if_neg fun repeated => ?_)
      obtain ⟨kept, among, same⟩ := List.any_eq_true.1 repeated
      exact other kept among (of_decide_eq_true same).symm
  · intro l pattern fragment shown
    exact ⟨apply_uniquify pattern fragment shown, fun _ => apply_eq_error_iff pattern fragment shown⟩

open Libraries

def twinStory : StoryModel where
  root := ⟨0⟩
  components := .ofList [
    (⟨0⟩, ⟨⟨0⟩, "Start", none, .storyPoint { children := [⟨1⟩, ⟨2⟩] }⟩),
    (⟨1⟩, ⟨⟨1⟩, "Hero", some ⟨0⟩, .knowIt {}⟩),
    (⟨2⟩, ⟨⟨2⟩, "Hero", some ⟨0⟩, .knowIt {}⟩)]

/-- Both variables, a text twice, and what does not match. -/
def twinSeries : List Element :=
  [.text "Hero", .component ⟨1⟩, .component ⟨0⟩, .text "Hero", .component ⟨2⟩]

/-- One text and one variable are left, whichever is done first. -/
theorem twins_by_name :
    ((SeriesFilter.byName "Hero").apply twinStory twinSeries "").map (uniquify twinStory) =
      .ok [.text "Hero", .component ⟨1⟩] := by
  have shown : ∀ e ∈ twinSeries, e.IsShown := by simp [twinSeries, Element.IsShown]
  obtain ⟨same, -⟩ := (unique_by_name twinStory).2.2 twinSeries "Hero" "" shown
  rw [← same]
  decide +kernel

end StoryLoom
