import StoryLoom.Pattern.Compile
import StoryLoom.Proofs.Generation.Computation
import StoryLoom.Proofs.Generation.Located
import StoryLoom.Proofs.Results

/-!
# Coverage — every cause has its script

- `pairwise_scriptLocations` : locations stand in the order of their first causes
- `location_of_scripts`  : a run makes one script for every location, in their order
- `MainBlock.listsCause`, `MainBlock.listsBlock` : the whole script lists a cause of its location and the
  cause's main block
- `scripts_cover_causes` : so every cause is in the one script of its location
-/

namespace StoryLoom

/-! ## Locations in story order -/

namespace StoryModel

/-- The location of a component, if it is a cause with a main block. -/
def causeLocation? (m : StoryModel) (x : ComponentId) : Option Location :=
  ((m.component? x).filter Component.isCause).bind m.mainLocation?

/-- Where the first cause of a location stands among the components of the story. -/
def firstCauseAt (m : StoryModel) (L : Location) : Nat :=
  m.allComponents.findIdx fun x => m.causeLocation? x = some L

/-- The files are where the causes of the model lie, first come first. -/
theorem scriptLocations_eq (m : StoryModel) :
    m.scriptLocations = (m.allComponents.filterMap m.causeLocation?).eraseDups := by
  rw [scriptLocations, causes, List.filterMap_filter, List.filterMap_filterMap]
  refine congrArg (fun f => (m.allComponents.filterMap f).eraseDups) (funext fun x => ?_)
  rw [causeLocation?]
  cases m.component? x with
  | none => rfl
  | some c => cases cause : c.isCause <;> simp [cause, Option.filter]

/-- Locations stand in the order of their first causes. -/
theorem pairwise_scriptLocations (m : StoryModel) :
    m.scriptLocations.Pairwise fun L L' => m.firstCauseAt L < m.firstCauseAt L' := by
  rw [scriptLocations_eq]
  exact EraseDups.pairwise_findIdx_eraseDups m.causeLocation? m.allComponents

/-- No file is written twice. -/
theorem nodup_scriptLocations (m : StoryModel) : m.scriptLocations.Nodup := by
  refine m.pairwise_scriptLocations.imp ?_
  rintro L L' before rfl
  exact Nat.lt_irrefl _ before

end StoryModel

/-! ## What the whole script lists -/

/-- The start of a file stands on a component of the model. -/
theorem Context.focus_of_root {s : Setting} {c : Context} (started : Context.root s = .ok c) :
    ∃ r, c.focus = .file r := by
  unfold Context.root at started
  split at started
  · cases started
  · split at started
    · cases started
      exact ⟨_, rfl⟩
    · cases started

/-- The code blocks listed for a file are those of the pass. -/
theorem Context.series_codeBlocks_of_file {s : Setting} {c : Context} {r : Component}
    (file : c.focus = .file r) : c.series s .codeBlocks = .ok (blockElements s.fileBlocks) := by
  rw [series, file]
  rfl

/-- The whole script lists a code block among those that it runs. -/
def Setting.ListsBlock (s : Setting) (n : CodeBlockId) : Prop :=
  ∃ c elements, Context.root s = .ok c ∧ c.series s .codeBlocks = .ok elements ∧
    .codeBlock n ∈ elements

namespace StoryModel.MainBlock

variable {s : Setting} {c : Context} {x : ComponentId} {k : Component} {n : CodeBlockId}
  {b : CodeBlock}

/-- A cause of the location is listed by the whole script. -/
theorem listsCause (main : s.model.MainBlock x k n b)
    (keyed : ∀ x c, s.model.component? x = some c → c.id = x)
    (here : s.model.locationOf b = s.location) (started : Context.root s = .ok c) :
    s.ListsCause x := by
  obtain ⟨r, file⟩ := Context.focus_of_root started
  refine ⟨c, _, started, Context.series_causes_of_file file, ?_⟩
  exact (Context.mem_elementsOf_causes_iff keyed).2
    ⟨x, k, x, k, n, b, rfl, main.found, main.cause, main, here, .inl rfl⟩

/-- The main block of a cause of the location is among the blocks that the whole script runs. -/
theorem mem_fileBlocks (main : s.model.MainBlock x k n b)
    (keyed : ∀ x c, s.model.component? x = some c → c.id = x)
    (here : s.model.locationOf b = s.location) : b ∈ s.fileBlocks := by
  have located : k ∈ s.fileScripts :=
    (Setting.mem_fileScripts_iff keyed).2 ⟨x, k, n, b, main, here, .inl rfl⟩
  have applies : s.model.appliesAt b s.location = true := by
    rw [StoryModel.appliesAt, here, decide_eq_true rfl, Bool.or_true]
  have first := main.first
  rw [Component.blockIds] at first
  cases own : k.script? with
  | none =>
    rw [own] at first
    cases first
  | some script =>
    rw [own] at first
    have listed : b ∈ s.model.blocksOf script :=
      List.mem_filterMap.2 ⟨n, List.mem_of_head? first, main.block⟩
    have among : script ∈ s.fileScripts.filterMap Component.script? :=
      List.mem_filterMap.2 ⟨k, located, own⟩
    exact List.mem_flatMap.2 ⟨script, among, List.mem_filter.2 ⟨listed, applies⟩⟩

/-- The main block of a cause is listed where the cause is. -/
theorem listsBlock (main : s.model.MainBlock x k n b)
    (keyed : ∀ x c, s.model.component? x = some c → c.id = x) (number : b.id = n)
    (here : s.model.locationOf b = s.location) (started : Context.root s = .ok c) :
    s.ListsBlock n := by
  obtain ⟨r, file⟩ := Context.focus_of_root started
  refine ⟨c, _, started, Context.series_codeBlocks_of_file file, ?_⟩
  rw [← number]
  exact List.mem_map_of_mem (main.mem_fileBlocks keyed here)

end StoryModel.MainBlock

/-! ## The scripts of a run -/

section Run

variable [PatternLibrary]

/-- A template is resolved against the whole script only where there is one. -/
theorem Pass.root_of_resolve {p next : Pass} {template : Template} {text : String}
    (done : p.resolve template = (.ok text, next)) : ∃ c, Context.root p.setting = .ok c := by
  cases started : Context.root p.setting with
  | ok c => exact ⟨c, rfl⟩
  | error e =>
    have refused : Pass.resolveRoot p.setting template p.namer = .error e p.namer := by
      rw [Pass.resolveRoot, started]
      exact Naming.bind_of_error rfl
    rw [Pass.resolve, Pass.run, refused] at done
    cases done

namespace Generator

variable {g : Generator} {m : StoryModel} {L : Location} {script : Script} {scripts : List Script}

/-- A script is made for its location, against the whole story. -/
theorem of_script_eq_ok (made : g.script m L = .ok script) :
    script.location = L ∧ ∃ c, Context.root (g.beginPass m L).setting = .ok c := by
  rw [Generator.script, runScript] at made
  cases slot : m.slot? L.slot with
  | none =>
    rw [slot] at made
    cases made
  | some slot' =>
    rw [slot] at made
    cases format : g.dictionary.format? slot'.format with
    | none =>
      simp only [runFormat, format] at made
      cases made
    | some template =>
      rcases done : (g.beginPass m L).resolve template with ⟨_ | text, next⟩
      · simp only [runFormat, format, done] at made
        cases made
      · simp only [runFormat, format, done] at made
        cases made
        exact ⟨rfl, Pass.root_of_resolve done⟩

/-- A run makes one script for every location, in their order. -/
theorem location_of_scripts (generated : g.scripts m = .ok scripts) :
    scripts.map Script.location = m.scriptLocations := by
  have made := Results.forall₂_of_mapM_eq_ok generated
  have placed : List.Forall₂ (fun L script => L = Script.location script) m.scriptLocations scripts :=
    made.imp fun _ _ made => (of_script_eq_ok made).1.symm
  exact (List.forall₂_eq_eq_eq ▸ List.forall₂_map_right_iff.2 placed).symm

/-- Where scripts were written, each file had a root to start from. -/
theorem root_of_scripts (generated : g.scripts m = .ok scripts) (located : L ∈ m.scriptLocations) :
    ∃ c, Context.root (g.beginPass m L).setting = .ok c := by
  obtain ⟨i, hi, rfl⟩ := List.getElem_of_mem located
  have made := Results.forall₂_of_mapM_eq_ok generated
  exact (of_script_eq_ok (made.get hi (made.length_eq ▸ hi))).2

/-- A run makes one script for every location of a cause with a main block, in story order, and each such
cause is listed with its main block by the script of its location. -/
theorem scripts_cover_causes (g : Generator) (m : StoryModel)
    (components : ∀ p ∈ m.components.entries, p.2.id = p.1)
    (codeBlocks : ∀ p ∈ m.codeBlocks.entries, p.2.id = p.1) (scripts : List Script)
    (generated : g.scripts m = .ok scripts) :
    scripts.map Script.location = m.scriptLocations ∧
      m.scriptLocations.Nodup ∧
      (m.scriptLocations.Pairwise fun L L' => m.firstCauseAt L < m.firstCauseAt L') ∧
      (∀ x k n b, m.MainBlock x k n b →
        (scripts.map Script.location).count (m.locationOf b) = 1 ∧
        (g.beginPass m (m.locationOf b)).setting.ListsCause x ∧
        (g.beginPass m (m.locationOf b)).setting.ListsBlock n) ∧
      ∀ script ∈ scripts, ∃ x k n b, m.MainBlock x k n b ∧ m.locationOf b = script.location := by
  have placed := location_of_scripts generated
  have keyed : ∀ x k, m.component? x = some k → k.id = x :=
    fun x k found => components (x, k) (Table.get?_eq_some_iff.1 found)
  -- The scripts are made for the locations one by one, so what is known of the locations is known of them.
  refine ⟨placed, m.nodup_scriptLocations, m.pairwise_scriptLocations, ?_, ?_⟩
  · intro x k n b main
    have located : m.locationOf b ∈ m.scriptLocations :=
      StoryModel.mem_scriptLocations_iff.2 ⟨x, k, n, b, main, rfl⟩
    have number : b.id = n := codeBlocks (n, b) (Table.get?_eq_some_iff.1 main.block)
    obtain ⟨c, started⟩ := root_of_scripts generated located
    refine ⟨?_, main.listsCause keyed rfl started, main.listsBlock keyed number rfl started⟩
    rw [placed]
    exact List.count_eq_one_of_mem m.nodup_scriptLocations located
  · intro script made
    have located : script.location ∈ m.scriptLocations := by
      rw [← placed]
      exact List.mem_map_of_mem made
    exact StoryModel.mem_scriptLocations_iff.1 located

end Generator

end Run

namespace Generator

open Libraries

def greeting : StoryModel :=
  (StoryModel.start "Start").afterAll
    [.setSlot "opened" { format := "file" },
      .addChild ⟨0⟩ "Opened" (.scriptIt { role := .cause }),
      .addCodeBlock ⟨1⟩ { slot := "opened" }]

def greeter : Generator where
  dictionary := { Dictionary.blank with formats := Table.ofList [("file", [.literal "hello"])] }
  rules := {}

/-- The one cause of the model is in the one script written for its place. -/
theorem greeting_covers_cause :
    greeter.scripts greeting = .ok [⟨{ slot := "opened" }, "hello"⟩] ∧
      (greeter.beginPass greeting { slot := "opened" }).setting.ListsCause ⟨1⟩ ∧
      (greeter.beginPass greeting { slot := "opened" }).setting.ListsBlock ⟨0⟩ := by
  have points : greeting.storyPoints = [⟨0⟩] := by
    have last : greeting.storyLinks.next greeting.root = [] := rfl
    rw [StoryModel.storyPoints, Graph.Links.depthFirst,
      Graph.Links.depthFirstFrom_new _ List.not_mem_nil, last, List.nil_append,
      Graph.Links.depthFirstFrom_nil]
    rfl
  have below : greeting.descendants ⟨0⟩ = [⟨1⟩] := by
    have child : greeting.childLinks.next ⟨0⟩ = [⟨1⟩] := rfl
    have leaf : greeting.childLinks.next ⟨1⟩ = [] := rfl
    rw [StoryModel.descendants, Graph.Links.depthFirst,
      Graph.Links.depthFirstFrom_new _ List.not_mem_nil, child, List.tail_cons, List.append_nil,
      Graph.Links.depthFirstFrom_new _ (by decide), leaf, List.nil_append,
      Graph.Links.depthFirstFrom_nil]
  have locations : greeting.scriptLocations = [{ slot := "opened" }] := by
    rw [StoryModel.scriptLocations, StoryModel.causes, StoryModel.allComponents, points,
      List.flatMap_singleton, below]
    decide
  have generated : greeter.scripts greeting = .ok [⟨{ slot := "opened" }, "hello"⟩] := by
    rw [Generator.scripts, locations]
    rfl
  have listed : ⟨1⟩ ∈ greeting.allComponents := by
    rw [StoryModel.allComponents, points, List.flatMap_singleton, below]
    exact List.mem_singleton_self _
  obtain ⟨-, -, -, covers, -⟩ :=
    scripts_cover_causes greeter greeting (by decide) (by decide) _ generated
  exact ⟨generated, (covers ⟨1⟩ _ ⟨0⟩ _ ⟨listed, rfl, rfl, rfl, rfl⟩).2⟩

end Generator
end StoryLoom
