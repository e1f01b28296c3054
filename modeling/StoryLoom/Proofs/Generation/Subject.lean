import Mathlib.Data.List.Permutation
import StoryLoom.Generation.Scope
import StoryLoom.Proofs.Generation.Reach
import StoryLoom.Proofs.List.EraseDups
import StoryLoom.Proofs.Story.Leftover

/-!
# Subject — the component that a block is attached to

- `findNamed?_argumentsOf_main` : the main block of a script finds what the script finds
- `Context.SubjectAgrees` : subject, argument and location of a block go by one component
- `agrees_of_block`, `agrees_of_script` : what a context has to look up for that
- `subject_is_argument` : they do in the contexts of a block, and of the script whose main block it is

A block searches its own parameters before those of its script. The script drops what is listed again, and its
main block comes first among its blocks. So the two searches try the same components, and what the longer one
tries again has been tried before.
-/

namespace StoryLoom

/-! ## Searches by name -/

namespace StoryModel

variable {m : StoryModel} {text : String} {ids : List ComponentId} {id : ComponentId}

/-- The first of several lists that holds the name decides. -/
theorem findNamed?_append (m : StoryModel) (ids later : List ComponentId) (text : String) :
    m.findNamed? (ids ++ later) text = (m.findNamed? ids text).or (m.findNamed? later text) :=
  List.find?_append

/-- What is listed again is not found where it comes again. -/
theorem findNamed?_eraseDups (m : StoryModel) (ids : List ComponentId) (text : String) :
    m.findNamed? ids.eraseDups text = m.findNamed? ids text := by
  refine EraseDups.find?_eraseDupsBy fun a _ b _ same => ?_
  rw [eq_of_beq same]

/-- What is found is among the candidates, exists, and has the name. -/
theorem exists_of_findNamed? (found : m.findNamed? ids text = some id) :
    id ∈ ids ∧ ∃ k, m.component? id = some k ∧ Text.sameLetters k.text text = true := by
  have named := List.find?_some found
  obtain ⟨k, stored, letters⟩ := (Option.any_eq_true _ _).1 named
  exact ⟨List.mem_of_find?_eq_some found, k, stored, letters⟩

/-- The main block of a script is the first of its blocks. -/
theorem exists_blocksOf_eq_cons {script : ScriptIt} {b : CodeBlock} (main : m.mainBlock? script = some b) :
    ∃ rest, m.blocksOf script = b :: rest := by
  obtain ⟨n, first, found⟩ := Option.bind_eq_some_iff.1 main
  obtain ⟨later, blocks⟩ := List.head?_eq_some_iff.1 first
  refine ⟨later.filterMap m.codeBlock?, ?_⟩
  rw [blocksOf, blocks, List.filterMap_cons_some found]

/-- The main block of a script finds what the script finds. -/
theorem findNamed?_argumentsOf_main {script : ScriptIt} {b : CodeBlock} {k : Component}
    (owner : m.blockOwner? b = some k) (isScript : k.script? = some script)
    (main : m.mainBlock? script = some b) (text : String) :
    m.findNamed? (m.argumentsOf b) text = m.findNamed? (m.parametersOf k) text := by
  obtain ⟨rest, blocks⟩ := exists_blocksOf_eq_cons main
  have parameters : m.parametersOf k = (b.parameters ++ rest.flatMap CodeBlock.parameters).eraseDups := by
    simp only [parametersOf, isScript, blocks, List.flatMap_cons]
  have arguments : m.argumentsOf b = b.parameters ++ m.parametersOf k := by
    simp only [argumentsOf, owner, Option.elim_some]
  calc m.findNamed? (m.argumentsOf b) text
      = (m.findNamed? b.parameters text).or (m.findNamed? (m.parametersOf k) text) := by
        rw [arguments, findNamed?_append]
    _ = (m.findNamed? b.parameters text).or ((m.findNamed? b.parameters text).or
          (m.findNamed? (rest.flatMap CodeBlock.parameters) text)) := by
        rw [parameters, findNamed?_eraseDups, findNamed?_append]
    _ = (m.findNamed? b.parameters text).or (m.findNamed? (rest.flatMap CodeBlock.parameters) text) := by
        rw [← Option.or_assoc, Option.or_self]
    _ = m.findNamed? (m.parametersOf k) text := by
        rw [parameters, findNamed?_eraseDups, findNamed?_append]

/-- The subject is the argument of its name. -/
theorem subjectOf?_of_named {b : CodeBlock} (named : b.subject = some text) :
    m.subjectOf? b = m.findNamed? (m.argumentsOf b) text := by
  rw [subjectOf?, named, Option.bind_some]

end StoryModel

/-! ## Contexts that look a subject up -/

namespace Context

/-- In a context, the subject of a block and the argument of the name it gives turn to one parameter, which can
be entered, and what this is bound to decides where the block belongs. Or there is no such parameter. -/
inductive SubjectAgrees (s : Setting) (b : CodeBlock) (text : String) (c : Context) : Prop
  | reached {id : ComponentId} {k : Component} (parameter : id ∈ s.model.argumentsOf b)
      (stored : s.model.component? id = some k) (letters : Text.sameLetters k.text text = true)
      (subject : ∀ name, c.scope s .subject name = .ok (.component id))
      (argument : c.scope s .argument (some text) = .ok (.component id))
      (entered : ∃ inner, c.enterComponent s id = .ok inner ∧ inner.focus = .component k)
      (decides : (s.model.locationOf b).subject =
        k.knowIt?.bind fun v => s.model.bindingText? v.binding) : SubjectAgrees s b text c
  | missing (subject : ∀ name, c.scope s .subject name = .error (c.missing s "subject"))
      (argument : c.scope s .argument (some text) = .error (c.missing s ("argument '" ++ text ++ "'")))
      (nowhere : (s.model.locationOf b).subject = none) : SubjectAgrees s b text c

variable {s : Setting} {c : Context} {b : CodeBlock} {text : String}

/-- It is enough that the context searches for both what the block searches for its subject. -/
theorem SubjectAgrees.of_scope
    (subject : ∀ name, c.scope s .subject name = c.blockSubject s b)
    (argument : c.scope s .argument (some text) =
      c.demand s ("argument '" ++ text ++ "'") (s.model.findNamed? (s.model.argumentsOf b) text))
    (named : b.subject = some text) : c.SubjectAgrees s b text := by
  have found := s.model.subjectOf?_of_named named
  simp only [blockSubject, found] at subject
  have location : (s.model.locationOf b).subject =
      (s.model.findNamed? (s.model.argumentsOf b) text).bind fun id =>
        (s.model.knowIt? id).bind fun v => s.model.bindingText? v.binding := by
    rw [StoryModel.locationOf, found]
  -- The three lookups go by one search, so they find or miss together.
  cases looked : s.model.findNamed? (s.model.argumentsOf b) text with
  | none =>
    rw [looked] at location argument
    exact .missing (fun name => (subject name).trans (by rw [looked]; rfl)) argument location
  | some id =>
    obtain ⟨parameter, k, stored, letters⟩ := StoryModel.exists_of_findNamed? looked
    rw [looked] at location argument
    have entered : c.enterComponent s id = .ok (c.inside (.component k)) := enter_component stored
    refine .reached parameter stored letters (fun name => (subject name).trans (by rw [looked]; rfl)) argument
      ⟨_, entered, rfl⟩ (location.trans ?_)
    simp only [Option.bind_some, StoryModel.knowIt?, stored]

/-- In the context of the block. -/
theorem agrees_of_block (focus : c.focus = .block b) (named : b.subject = some text) :
    c.SubjectAgrees s b text := by
  refine .of_scope (fun name => ?_) ?_ named
  · simp only [scope, focus, blockScope]
  · simp only [scope, focus, blockScope, findNamed]
    rfl

/-- In the context of a script whose main block it is. -/
theorem agrees_of_script {k : Component} {script : ScriptIt} (focus : c.focus = .component k)
    (isScript : k.script? = some script) (main : s.model.mainBlock? script = some b)
    (owner : s.model.blockOwner? b = some k) (named : b.subject = some text) :
    c.SubjectAgrees s b text := by
  have kind : k.kind = .scriptIt script := by
    unfold Component.script? at isScript
    split at isScript
    · next kind =>
      cases isScript
      exact kind
    · cases isScript
  refine .of_scope (fun name => ?_) ?_ named
  · simp only [scope, focus, componentScope, kind, scriptScope, mainBlock, main]
    rfl
  · rw [StoryModel.findNamed?_argumentsOf_main owner isScript main]
    simp only [scope, focus, componentScope, kind, scriptScope, findNamed]
    rfl

end Context

/-! ## After the links are set -/

namespace StoryModel

/-- After the links are set, the main block of a script is owned by it, if no other script lists the block. -/
theorem blockOwner?_of_main {m m' : StoryModel} (linked : m.IsRebuilt m')
    (once : ∀ n p q, m'.ListsBlock p n → m'.ListsBlock q n → p = q)
    {id : ComponentId} {k : Component} {script : ScriptIt} {b : CodeBlock}
    (stored : m'.component? id = some k) (isScript : k.script? = some script)
    (main : m'.mainBlock? script = some b) : m'.blockOwner? b = some k := by
  obtain ⟨n, first, found⟩ := Option.bind_eq_some_iff.1 main
  have lists : m'.ListsBlock id n := by
    refine ⟨k, stored, ?_⟩
    rw [Component.blockIds, isScript]
    exact List.mem_of_mem_head? first
  -- What is listed in the story is listed in that with its links set, and the other way round.
  obtain ⟨o, rfl⟩ := linked.exists_order
  have same : m.SameStructure o.rebuilt := o.sameStructure
  have owner : b.owner = some id := by
    refine o.relinked.blockOwner n b id found (same.symm.listsBlock lists) fun q there => ?_
    exact once n q id (same.listsBlock there) lists
  rw [blockOwner?, owner, Option.bind_some, stored]

end StoryModel

/-- After the links are set, in whatever order the tables are read, if no two scripts list one block: in the
contexts of a block with a subject, and in those of the script whose main block it is, subject and argument of
that name turn to one parameter, the one that decides where the block belongs, or there is none for all
three. -/
theorem subject_is_argument {s : Setting} {m : StoryModel} (linked : m.IsRebuilt s.model)
    (once : ∀ n p q, s.model.ListsBlock p n → s.model.ListsBlock q n → p = q)
    {b : CodeBlock} {text : String} (named : b.subject = some text) :
    (∀ c : Context, c.focus = .block b → c.SubjectAgrees s b text) ∧
      ∀ id k script, s.model.component? id = some k → k.script? = some script →
        s.model.mainBlock? script = some b →
        ∀ c : Context, c.focus = .component k → c.SubjectAgrees s b text := by
  refine ⟨fun c focus => Context.agrees_of_block focus named, ?_⟩
  intro id k script stored isScript main c focus
  have owner : s.model.blockOwner? b = some k :=
    StoryModel.blockOwner?_of_main linked once stored isScript main
  exact Context.agrees_of_script focus isScript main owner named

/-- A cause with two blocks, listed under a wrong owner. The first takes a door for its subject that only the
second lists as a parameter, and before it another of the name. -/
def doorStory : StoryModel where
  root := ⟨0⟩
  components := .ofList [
    (⟨0⟩, ⟨⟨0⟩, "Start", none, .storyPoint { children := [⟨1⟩] }⟩),
    (⟨1⟩, ⟨⟨1⟩, "Opened", some ⟨0⟩, .scriptIt { role := .cause, codeBlocks := [⟨0⟩, ⟨7⟩, ⟨1⟩] }⟩),
    (⟨2⟩, ⟨⟨2⟩, "Chest", some ⟨1⟩, .knowIt {}⟩),
    (⟨3⟩, ⟨⟨3⟩, "door", some ⟨1⟩, .knowIt { binding := .resource { name := "Gate", codeText := "gate_1" } }⟩),
    (⟨4⟩, ⟨⟨4⟩, "Door", some ⟨1⟩, .knowIt { binding := .reference ⟨2⟩ }⟩)]
  codeBlocks := .ofList [
    (⟨0⟩, { owner := some ⟨9⟩, slot := "opened", subject := some "DOOR", parameters := [⟨2⟩, ⟨8⟩] }),
    (⟨1⟩, { owner := some ⟨9⟩, slot := "closed", parameters := [⟨2⟩, ⟨3⟩, ⟨4⟩] })]

def doorSetting : Setting where
  model := doorStory.rebuildOwners
  dictionary := { name := "Plain" }
  location := ⟨"opened", none⟩
  namingPattern := LegalPattern.defaultNaming

/-- In the cause, subject and argument turn to the first door, which the first block is attached to. -/
theorem door_is_subject : ∃ k script b, doorSetting.model.component? ⟨1⟩ = some k ∧ k.script? = some script ∧
    doorSetting.model.mainBlock? script = some b ∧ b.subject = some "DOOR" ∧
    (∀ n p q, doorSetting.model.ListsBlock p n → doorSetting.model.ListsBlock q n → p = q) ∧
    Context.SubjectAgrees doorSetting b "DOOR" { focus := .component k } ∧
    Context.scope doorSetting { focus := .component k } .subject none = .ok (.component ⟨3⟩) ∧
    (doorSetting.model.locationOf b).subject = some "gate_1" := by
  -- Only the blocks change.
  have linked : doorStory.rebuildOwners = { doorStory with
      codeBlocks := doorStory.codeBlocks.mapValues fun id b => { b with id := id, owner := some ⟨1⟩ } } := by
    cbv
  have scripts : ∀ e ∈ doorSetting.model.components.entries, e.2.blockIds ≠ [] → e.1 = ⟨1⟩ := by
    decide +kernel
  have lists : ∀ p n, doorSetting.model.ListsBlock p n → p = ⟨1⟩ := by
    rintro p n ⟨c, stored, listed⟩
    exact scripts (p, c) (Table.get?_eq_some_iff.1 stored) (List.ne_nil_of_mem listed)
  have once : ∀ n p q, doorSetting.model.ListsBlock p n → doorSetting.model.ListsBlock q n → p = q := by
    intro n p q hp hq
    rw [lists p n hp, lists q n hq]
  let script : ScriptIt := { role := .cause, codeBlocks := [⟨0⟩, ⟨7⟩, ⟨1⟩] }
  let k : Component := ⟨⟨1⟩, "Opened", some ⟨0⟩, .scriptIt script⟩
  let b : CodeBlock :=
    { id := ⟨0⟩, owner := some ⟨1⟩, slot := "opened", subject := some "DOOR", parameters := [⟨2⟩, ⟨8⟩] }
  have stored : doorSetting.model.component? ⟨1⟩ = some k := by
    rw [doorSetting, linked]
    rfl
  have main : doorSetting.model.mainBlock? script = some b := by
    rw [doorSetting, linked]
    rfl
  have turned : Context.scope doorSetting { focus := .component k } .subject none =
      .ok (.component ⟨3⟩) := by
    rw [doorSetting, linked]
    rfl
  have placed : (doorSetting.model.locationOf b).subject = some "gate_1" := by
    rw [doorSetting, linked]
    rfl
  have named : b.subject = some "DOOR" := rfl
  have agrees := subject_is_argument (s := doorSetting) (.inl rfl) once named
  exact ⟨k, script, b, stored, rfl, main, named, once, agrees.2 ⟨1⟩ k script stored rfl main _ rfl,
    turned, placed⟩

end StoryLoom
