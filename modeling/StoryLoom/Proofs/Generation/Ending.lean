import StoryLoom.Pattern.Compile
import StoryLoom.Proofs.Generation.Depth

/-!
# Ending — resolution without recursive templates

- `Expand.Bounded`          : resolution that does not fail for want of room
- `bounded_resolveWithin`   : only calls that are too deep can make it fail so
- `resolveWithin_eq_of_acyclic` : the calls that suffice, and the templates inside each other
- `acyclic_templates_end`   : without recursive templates resolution ends, on every story
-/

namespace StoryLoom

/-! ## No failure for want of room -/

section Failures

open Naming

variable {s : Setting} {inner : Expand}

/-- Resolution against objects of the story that does not fail for want of room. -/
def Expand.Bounded (s : Setting) (expand : Expand) : Prop :=
  ∀ (c : Context) (template : Template), c.focus.Stored s.model →
    Yields (fun _ => True) (expand c template)

theorem yields_resolveParts (bounded : inner.Bounded s) {key : DataKey} (ps : List Part)
    (follows : ∀ p ∈ ps, p.Follows s key) : Yields (fun _ => True) (resolveParts inner ps) := by
  induction ps with
  | nil => exact .pure trivial
  | cons p rest ih =>
    have here := follows p List.mem_cons_self
    have others := ih fun q hq => follows q (List.mem_cons_of_mem p hq)
    refine (Yields.ofExcept here.stored here.grounded).bind fun c stored => ?_
    exact (bounded c p.template stored).bind fun _ _ => others.bind fun _ _ => .pure trivial

variable [PatternLibrary]

theorem yields_resolveReference (bounded : inner.Bounded s) {c : Context}
    (stored : c.focus.Stored s.model) (label : String) (legal : Option String) :
    Yields (fun _ => True) (resolveReference s inner c label legal) := by
  unfold resolveReference
  split
  · exact .throw (by simp)
  · next key _ =>
    refine (Context.yields_data stored key legal).bind fun a follows => ?_
    cases a with
    | text t => exact .pure trivial
    | parts ps => exact yields_resolveParts bounded ps follows

/-- A fragment ends where the templates it calls do. -/
theorem yields_resolvePiece (bounded : inner.Bounded s) (f : Fragment) {c : Context}
    (stored : c.focus.Stored s.model) : Yields (fun _ => True) (resolvePiece s inner f c) := by
  -- A piece only fails by a lookup or in a template it goes to, and neither runs out of room.
  cases f with
  | literal text => exact .pure trivial
  | reference label legal => exact yields_resolveReference bounded stored label legal
  | scope label name body =>
    refine (Context.yields_enterScope c label name).bind fun context made => ?_
    exact bounded context body made
  | series source separator filter unique body =>
    refine (Yields.lookup (grounded_seriesElements s c _ _ _ _)).bind fun elements _ => ?_
    refine (Yields.mapM (fun element => ?_) elements).bind fun _ _ => .pure trivial
    exact (Context.yields_enter c element).bind fun context made => bounded context body made
  | line body => exact (bounded c body stored).bind fun _ _ => .pure trivial
  | indent body => exact bounded (c.indented s) body stored
  | format id onlyFor =>
    simp only [resolvePiece, resolveFormat]
    split
    · split
      · exact .throw (by simp)
      · exact bounded c _ stored
    · exact .pure trivial
  | conditional condition body =>
    refine (Yields.lookup (grounded_conditionHolds s c condition)).bind fun holds _ => ?_
    cases holds with
    | true => exact (bounded c body stored).bind fun _ _ => .pure trivial
    | false => exact .pure trivial

/-- A template ends where all its fragments do. -/
theorem yields_resolvePieces (bounded : inner.Bounded s) (template : Template) {c : Context}
    (stored : c.focus.Stored s.model) :
    Yields (fun _ => True) (resolvePieces s inner template c) := by
  induction template with
  | nil => exact .pure trivial
  | cons f rest ih =>
    -- Noting the piece leaves the kind of a failure as it is.
    have first := (yields_resolvePiece bounded f stored).mapError
      (f := GenerationError.inFragment f.describe) fun e kind => kind
    exact first.bind fun _ _ => ih.bind fun _ _ => .pure trivial

/-- Where calls that are too deep do not fail for want of room, none do. -/
theorem bounded_resolveWithin {deeper : Expand} (bounded : deeper.Bounded s) (calls : Nat) :
    (resolveWithin s deeper calls).Bounded s := by
  induction calls with
  | zero => exact bounded
  | succ calls ih => exact fun c template stored => yields_resolvePieces ih template stored

end Failures

/-! ## Resolution without recursive templates -/

section Acyclic

variable {s : Setting} {template : Template} {c : Context}

/-- The resolver starts with more calls than there are templates. -/
theorem Setting.templateCount_lt_depthBound (s : Setting) : s.templateCount < s.depthBound := by
  have foci : 0 < s.focusCount + 1 := Nat.succ_pos _
  have room : 0 < (s.focusCount + 1) * (s.focusCount + 1) * (s.focusCount + 1) :=
    Nat.mul_pos (Nat.mul_pos foci foci) foci
  exact Nat.lt_succ_of_lt (Nat.le_mul_of_pos_right _ room)

variable [PatternLibrary]

/-- Without recursive templates, so many calls do what so many templates inside each other do. -/
theorem resolveWithin_eq_of_acyclic (acyclic : s.Acyclic) (stored : c.focus.Stored s.model)
    (deeper : Expand) {depth calls : Nat} (deep : s.templateCount < depth)
    (fits : callBound s.templates template ≤ calls) :
    resolveWithin s deeper calls c template = resolveUpTo s depth c template := by
  -- One weight counts the templates still below and the other adds up their nesting. Both fall with each
  -- call, the one for the depth and the other for the calls.
  have count : (s.templates.map fun _ => 1).sum = s.templateCount := by
    rw [List.map_const', List.sum_replicate_nat, Nat.mul_one, Setting.length_templates]
  have lower : ∀ a b called, s.Leads a b → s.template? b = some called →
      s.load (fun _ => 1) b < s.load (fun _ => 1) a := by
    intro a b called step found
    have fall := Setting.load_le_load acyclic (fun _ => 1) step found
    omega
  have low : ∀ id called, template.Calls id → s.template? id = some called →
      s.load (fun _ => 1) id < s.templateCount := by
    intro id called _ found
    have total := Setting.load_le_sum acyclic (fun _ => 1) found
    omega
  obtain ⟨more, rfl⟩ := Nat.exists_eq_add_of_lt deep
  exact resolveWithin_eq_resolveUpTo (s.load Template.nesting) (s.load fun _ => 1)
    (fun _ _ _ => Setting.load_le_load acyclic Template.nesting) lower deeper _ stored
    (fun _ _ _ found => Setting.load_le_sum acyclic Template.nesting found)
    (fun id called led found => Nat.lt_of_lt_of_le (low id called led found) (Nat.le_add_right _ _))
    fits

/-- Where no template leads back to itself, resolution against every object of the story ends, however the
story is linked: with a text or a failure, which is not that templates call each other without end. As many
calls inside each other suffice as the templates say, so that it does not matter what is done with
deeper ones; and as many templates inside each other as there are, besides the one at hand. Contexts of a
pass are on objects of the story (`Context.Reachable.focus_stored`). -/
theorem acyclic_templates_end (s : Setting) (acyclic : s.Acyclic) (template : Template)
    (c : Context) (stored : c.focus.Stored s.model) :
    (∀ (deeper : Expand) (calls : Nat), callBound s.templates template ≤ calls →
      resolveWithin s deeper calls c template = resolve s template c) ∧
    (∀ depth, s.templateCount < depth → resolveUpTo s depth c template = resolve s template c) ∧
    ∀ n e next, resolve s template c n = .error e next → e.problem ≠ .endless := by
  have within : ∀ (deeper : Expand) (calls : Nat), callBound s.templates template ≤ calls →
      resolveWithin s deeper calls c template = resolve s template c :=
    fun deeper calls =>
      resolveWithin_eq_of_acyclic acyclic stored deeper s.templateCount_lt_depthBound
  -- Calls that are too deep may as well end with a text.
  let plain : Expand := fun _ _ => pure ""
  let enough := callBound s.templates template
  refine ⟨within, ?_, ?_⟩
  · intro depth deep
    calc resolveUpTo s depth c template
        = resolveWithin s plain enough c template :=
          (resolveWithin_eq_of_acyclic acyclic stored plain deep (Nat.le_refl enough)).symm
      _ = resolve s template c := within plain enough (Nat.le_refl enough)
  · intro n e next failed
    have plain_bounded : plain.Bounded s := fun _ _ _ => .pure trivial
    have bounded := bounded_resolveWithin plain_bounded enough c template stored
    rw [within plain enough (Nat.le_refl enough)] at bounded
    exact bounded.error n e next failed

end Acyclic

open Libraries

/-- A story in which everything is linked in circles: owners and children, story points, the value of a
variable and a dialogue. -/
def knotStory : StoryModel where
  root := ⟨0⟩
  components := .ofList [
    (⟨0⟩, ⟨⟨0⟩, "Start", some ⟨1⟩, .storyPoint { children := [⟨1⟩, ⟨2⟩], successors := [⟨0⟩] }⟩),
    (⟨1⟩, ⟨⟨1⟩, "Knock", some ⟨0⟩,
      .scriptIt { role := .cause, codeBlocks := [⟨0⟩], children := [⟨0⟩] }⟩),
    (⟨2⟩, ⟨⟨2⟩, "Door", some ⟨1⟩, .knowIt { binding := .function ⟨1⟩ }⟩)]
  codeBlocks := .ofList [
    (⟨0⟩, { owner := some ⟨1⟩, slot := "main", subject := some "Door", parameters := [⟨2⟩]
            code := [.literal "open ", .ref "subject"] })]
  lines := .ofList [
    (⟨0⟩, { text := "Who is there?", speaker := .npc, parent := some ⟨0⟩, children := [⟨0⟩] })]

/-- A dictionary in which a format leads to code, and code to the call of a function. -/
def knotDictionary : Dictionary where
  name := "Plain"
  function := { call := [.ref "name", .literal "()"] }
  formats := .ofList [("script", [.series "codeBlocks" "" {} false [.line [.ref "code"]]])]

/-- What is fixed where the story is resolved with the dictionary. -/
def knotSetting : Setting where
  model := knotStory
  dictionary := knotDictionary
  location := ⟨"main", none⟩
  namingPattern := LegalPattern.defaultNaming

/-- The format is above all code, and all code above the call. -/
def knotRank : TemplateId → Nat
  | .format _ => 3
  | .code _ => 2
  | .call => 1
  | _ => 0

/-- The links of the story form a knot, but its templates call nothing in a circle. -/
theorem acyclic_knotSetting : knotSetting.Acyclic := by
  have code : DataKey.parse? "code" = some .code := rfl
  have subject : DataKey.parse? "subject" = some .subject := rfl
  have name : DataKey.parse? "name" = some .name := rfl
  -- Each template calls templates of a lower rank only.
  refine Setting.acyclic_of_rank knotRank ?_
  rintro a b ⟨template, found, calls⟩
  cases a with
  | format id =>
    obtain ⟨rfl, rfl⟩ : id = "script" ∧ template = _ := by
      simpa using List.mem_singleton.1 (Table.get?_eq_some_iff.1 found)
    have led : DataKey.Calls .code b := by
      simpa [Template.Calls, Fragment.Calls, Fragment.ref, code] using calls
    cases b with
    | code => exact Nat.lt_succ_self 2
    | format | typeFormat | declaration | definition | call => cases led
  | code id =>
    obtain ⟨block, known, rfl⟩ := Option.map_eq_some_iff.1 found
    obtain ⟨rfl, rfl⟩ : id = ⟨0⟩ ∧ block = _ := by
      simpa using List.mem_singleton.1 (Table.get?_eq_some_iff.1 known)
    have led : DataKey.Calls .subject b := by
      simpa [Template.Calls, Fragment.Calls, Fragment.ref, subject] using calls
    cases b with
    | call => exact Nat.lt_succ_self 1
    | format | typeFormat | declaration | definition | code => cases led
  | call =>
    cases found
    have led : DataKey.Calls .name b := by
      simpa [knotSetting, knotDictionary, Template.Calls, Fragment.Calls, Fragment.ref, name]
        using calls
    cases b <;> cases led
  | typeFormat => cases found
  | declaration | definition =>
    cases found
    cases calls

/-- So resolving the script of the knot ends. -/
theorem knot_ends :
    let script : Focus := .component ⟨⟨1⟩, "Knock", some ⟨0⟩,
      .scriptIt { role := .cause, codeBlocks := [⟨0⟩], children := [⟨0⟩] }⟩
    let template : Template := [.indent [.format "script" none]]
    knotSetting.Acyclic ∧ script.Stored knotSetting.model ∧
      callBound knotSetting.templates template = 9 ∧
      ∀ deeper : Expand, resolveWithin knotSetting deeper 9 { focus := script } template =
        resolve knotSetting template { focus := script } := by
  intro script template
  have stored : script.Stored knotSetting.model := ⟨⟨1⟩, rfl⟩
  have bound : callBound knotSetting.templates template = 9 := by decide
  refine ⟨acyclic_knotSetting, stored, bound, fun deeper => ?_⟩
  exact (acyclic_templates_end knotSetting acyclic_knotSetting template { focus := script }
    stored).1 deeper 9 (Nat.le_of_eq bound)

end StoryLoom
