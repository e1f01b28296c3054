import StoryLoom.Proofs.Generation.Calls
import StoryLoom.Proofs.Graph.Load

/-!
# Depth — how deep resolution goes

- `resolveWithin`       : resolution in which every template resolved inside another one, bodies included,
  is a call, with so many calls inside each other
- `Template.nesting`    : the bodies of a template inside each other
- `callBound`           : a number of calls, from the templates alone
- `Setting.load`        : the weight of the templates that a template leads to
- `Enough`              : with room for so many calls, some templates are resolved
- `resolveWithin_eq_resolveUpTo` : where two measures fall along the graph of the templates, so many calls
  do what so many templates inside each other do

Resolution goes into a body of the template at hand, or on to a template that it leads to. The first is
done as often as bodies are nested. The second lowers the load, so that every template adds its nesting
once. Which objects are asked has no part in this.
-/

namespace StoryLoom

/-! ## Calls inside each other -/

section Calls

variable [PatternLibrary] (s : Setting)

/-- The text of a piece, where its bodies and all other templates are resolved by `inner`. -/
def resolvePiece (inner : Expand) : Fragment → Context → Naming String
  | .literal text, _ => pure text
  | .reference label legal, c => resolveReference s inner c label legal
  | .scope label name body, c => do
    let context ← Naming.ofExcept (enterScope s c label name)
    inner context body
  | .series source separator filter unique body, c => do
    let elements ← Naming.ofExcept (seriesElements s c source filter unique
      (Fragment.series source separator filter unique body).describe)
    let texts ← elements.mapM fun element => do
      let context ← Naming.ofExcept (c.enter s element)
      inner context body
    return separator.intercalate texts
  | .line body, c => do
    let text ← inner c body
    return c.indent ++ text ++ s.dictionary.newline
  | .indent body, c => inner (c.indented s) body
  | .format id onlyFor, c => resolveFormat s inner c id onlyFor
  | .conditional condition body, c => do
    let holds ← Naming.ofExcept (conditionHolds s c condition)
    if holds then
      let text ← inner c body
      return c.indent ++ text
    else return ""

/-- The text of a template, where all templates inside it are resolved by `inner`. -/
def resolvePieces (inner : Expand) : Template → Context → Naming String
  | [], _ => pure ""
  | f :: rest, c => do
    let text ← Naming.mapError (GenerationError.inFragment f.describe) (resolvePiece s inner f c)
    let others ← resolvePieces inner rest c
    return text ++ others

/-- Resolution with so many calls inside each other. What is below these is left to `deeper`. -/
def resolveWithin (deeper : Expand) : Nat → Expand
  | 0 => deeper
  | calls + 1 => fun c template => resolvePieces s (resolveWithin deeper calls) template c

end Calls

/-! ## A bound from the templates -/

mutual

/-- How many bodies of a piece are inside each other. -/
def Fragment.nesting : Fragment → Nat
  | .literal _ => 0
  | .reference _ _ => 0
  | .format _ _ => 0
  | .scope _ _ body => Template.nesting body
  | .series _ _ _ _ body => Template.nesting body
  | .line body => Template.nesting body
  | .indent body => Template.nesting body
  | .conditional _ body => Template.nesting body

/-- A template with the bodies inside each other, counted from itself. -/
def Template.nesting : Template → Nat
  | [] => 1
  | f :: rest => max (f.nesting + 1) (Template.nesting rest)

end

/-- Even the empty template needs a call of its own. -/
theorem Template.nesting_pos : ∀ template : Template, 0 < template.nesting
  | [] => Nat.zero_lt_one
  | f :: rest => by
    rw [nesting]
    omega

/-- A number of calls, from some templates and one to start with. -/
def callBound (templates : List Template) (template : Template) : Nat :=
  template.nesting + (templates.map Template.nesting).sum

namespace Setting

/-- The templates of dictionary and story with their places. -/
def templateEntries (s : Setting) : List (TemplateId × Template) :=
  s.dictionary.formats.entries.map (fun e => (.format e.1, e.2)) ++
    s.dictionary.types.entries.map (fun e => (.typeFormat e.1, e.2.format)) ++
    [(.declaration, s.dictionary.function.declaration),
      (.definition, s.dictionary.function.definition), (.call, s.dictionary.function.call)] ++
    s.model.codeBlocks.entries.map (fun e => (.code e.1, e.2.code))

def templates (s : Setting) : List Template :=
  s.templateEntries.map Prod.snd

variable {s : Setting}

/-- The templates counted are the templates listed. -/
theorem length_templates (s : Setting) : s.templates.length = s.templateCount := by
  simp only [templates, templateEntries, templateCount, Table.size, List.length_map,
    List.length_append, List.length_cons, List.length_nil]

/-- Every template a call can find is listed. -/
theorem mem_templateEntries {id : TemplateId} {template : Template}
    (found : s.template? id = some template) : (id, template) ∈ s.templateEntries := by
  simp only [templateEntries, List.mem_append, List.mem_map]
  cases id with
  | format name => exact .inl (.inl (.inl ⟨_, Table.get?_eq_some_iff.1 found, rfl⟩))
  | typeFormat name =>
    obtain ⟨entry, known, rfl⟩ := Option.map_eq_some_iff.1 found
    exact .inl (.inl (.inr ⟨_, Table.get?_eq_some_iff.1 known, rfl⟩))
  | declaration | definition | call =>
    cases found
    exact .inl (.inr (by simp))
  | code number =>
    obtain ⟨b, known, rfl⟩ := Option.map_eq_some_iff.1 found
    exact .inr ⟨_, Table.get?_eq_some_iff.1 known, rfl⟩

/-- The weight of all templates that a template leads to. -/
noncomputable def load (s : Setting) (weight : Template → Nat) (id : TemplateId) : Nat :=
  Graph.load s.Leads (s.templateEntries.map fun e => (e.1, weight e.2)) id

section Load

variable (acyclic : s.Acyclic) (weight : Template → Nat) {a b : TemplateId} {template : Template}

include acyclic

/-- A step that leads on leaves the templates it came from behind. -/
theorem load_le_load (step : s.Leads a b) (found : s.template? b = some template) :
    weight template + s.load weight b ≤ s.load weight a :=
  Graph.load_le_load acyclic (List.mem_map.2 ⟨_, mem_templateEntries found, rfl⟩) step

/-- Below a template lie at most all the others. -/
theorem load_le_sum (found : s.template? b = some template) :
    weight template + s.load weight b ≤ (s.templates.map weight).sum := by
  have total := Graph.load_le_total acyclic
    (List.mem_map.2 ⟨_, mem_templateEntries found, rfl⟩ :
      (b, weight template) ∈ s.templateEntries.map fun e => (e.1, weight e.2))
  simpa only [load, templates, List.map_map, Function.comp_def] using total

end Load
end Setting

/-! ## Enough calls -/

section Enough

open Naming

variable [PatternLibrary] {s : Setting} {deeper expand : Expand} {room : Nat}

/-- With room for so many calls, the templates that are called are resolved as by `expand`, against every
object of the story. -/
def Enough (s : Setting) (deeper expand : Expand) (room : Nat) (called : TemplateId → Prop) :
    Prop :=
  ∀ id template, called id → s.template? id = some template → ∀ calls, room ≤ calls →
    ∀ c : Context, c.focus.Stored s.model →
      resolveWithin s deeper calls c template = expand c template

/-- A resolver deep enough for some calls is deep enough for fewer. -/
theorem Enough.mono {called fewer : TemplateId → Prop} (h : Enough s deeper expand room called)
    (less : ∀ id, fewer id → called id) : Enough s deeper expand room fewer :=
  fun id template calls => h id template (less id calls)

/-- An answer resolves alike at every depth that fits the templates it calls. -/
theorem Enough.answer {key : DataKey} (h : Enough s deeper expand room key.Calls) {calls : Nat}
    (fits : room ≤ calls) {a : Answer} (follows : a.Follows s key) :
    resolveAnswer (resolveWithin s deeper calls) a = resolveAnswer expand a := by
  cases a with
  | text t => rfl
  | parts ps =>
    simp only [resolveAnswer]
    induction ps with
    | nil => rfl
    | cons p rest ih =>
      obtain ⟨grounded, stored, id, led, found⟩ := follows p List.mem_cons_self
      have others := ih fun q hq => follows q (List.mem_cons_of_mem p hq)
      simp only [resolveParts]
      refine (Yields.ofExcept stored grounded).bind_congr fun c hc => ?_
      rw [h id p.template led found calls fits c hc, others]

/-- Resolving a template is a call, for which there is room. -/
theorem resolveWithin_eq {template : Template} {c : Context} {x : Naming String} {calls : Nat}
    (fits : template.nesting + room ≤ calls)
    (h : ∀ inside, template.nesting + room ≤ inside + 1 →
      resolvePieces s (resolveWithin s deeper inside) template c = x) :
    resolveWithin s deeper calls c template = x := by
  have counted := template.nesting_pos
  cases calls with
  | zero => omega
  | succ inside => exact h inside fits

/-! The induction is on the template. Its bodies are calls that the nesting counts; the templates that it
leads to are those of the hypothesis. -/

mutual

/-- A fragment may use up its own nesting before the calls it makes. -/
theorem Enough.piece (f : Fragment) (h : Enough s deeper expand room f.Calls) {calls : Nat}
    (fits : f.nesting + room ≤ calls) {c : Context} (stored : c.focus.Stored s.model) :
    resolvePiece s (resolveWithin s deeper calls) f c = resolveOne s expand f c := by
  cases f with
  | literal text => rfl
  | reference label legal =>
    simp only [resolvePiece, resolveOne, resolveReference]
    split
    · rfl
    · next key read =>
      -- A reference has no body, so all the room that is left goes to the templates of its value.
      have led : Enough s deeper expand room key.Calls :=
        h.mono fun id calls => ⟨key, read, calls⟩
      have near : room ≤ calls := Nat.le_trans (Nat.le_add_left room _) fits
      exact (Context.yields_data stored key legal).bind_congr fun a follows =>
        led.answer near follows
  | scope label name body =>
    simp only [resolvePiece, resolveOne]
    exact (Context.yields_enterScope c label name).bind_congr fun inner made =>
      resolveWithin_eq fits fun inside fits' => Enough.pieces body h fits' made
  | series source separator filter unique body =>
    simp only [resolvePiece, resolveOne]
    -- The elements are entered one by one, and the body has the same room in each.
    have each : ∀ element, (Naming.ofExcept (c.enter s element) >>= fun context =>
        resolveWithin s deeper calls context body) =
        (Naming.ofExcept (c.enter s element) >>= fun inner => resolveWith s expand body inner) :=
      fun element => (Context.yields_enter c element).bind_congr fun inner made =>
        resolveWithin_eq fits fun inside fits' => Enough.pieces body h fits' made
    simp only [each]
  | line body =>
    have same : resolveWithin s deeper calls c body = resolveWith s expand body c :=
      resolveWithin_eq fits fun inside fits' => Enough.pieces body h fits' stored
    simp only [resolvePiece, resolveOne, same]
  | indent body =>
    exact resolveWithin_eq fits fun inside fits' => Enough.pieces body h fits' stored
  | format id onlyFor =>
    simp only [resolvePiece, resolveOne, resolveFormat]
    have near : room ≤ calls := Nat.le_trans (Nat.le_add_left room _) fits
    split
    · split
      · rfl
      · next template found => exact h (.format id) template rfl found calls near c stored
    · rfl
  | conditional condition body =>
    have same : resolveWithin s deeper calls c body = resolveWith s expand body c :=
      resolveWithin_eq fits fun inside fits' => Enough.pieces body h fits' stored
    simp only [resolvePiece, resolveOne, same]

/-- Its fragments resolve alike, so the template does. -/
theorem Enough.pieces (template : Template) (h : Enough s deeper expand room template.Calls)
    {calls : Nat} (fits : template.nesting + room ≤ calls + 1) {c : Context}
    (stored : c.focus.Stored s.model) :
    resolvePieces s (resolveWithin s deeper calls) template c = resolveWith s expand template c := by
  cases template with
  | nil => rfl
  | cons f rest =>
    rw [Template.nesting] at fits
    have first : f.nesting + room ≤ calls := by omega
    have others : Template.nesting rest + room ≤ calls + 1 := by omega
    simp only [resolvePieces, resolveWith,
      Enough.piece f (h.mono fun _ => Or.inl) first stored,
      Enough.pieces rest (h.mono fun _ => Or.inr) others stored]

end

/-! ## Measures -/

/-- Along the steps of the graph two measures fall: `load` by the nesting of the next template, and `height`.
Then so many calls, and so many templates inside each other, suffice. -/
theorem resolveWithin_eq_resolveUpTo (load height : TemplateId → Nat)
    (lighter : ∀ a b template, s.Leads a b → s.template? b = some template →
      template.nesting + load b ≤ load a)
    (lower : ∀ a b template, s.Leads a b → s.template? b = some template → height b < height a)
    (deeper : Expand) (depth : Nat) {template : Template} {c : Context}
    (stored : c.focus.Stored s.model)
    (light : ∀ id called, template.Calls id → s.template? id = some called →
      called.nesting + load id ≤ room)
    (low : ∀ id called, template.Calls id → s.template? id = some called → height id < depth)
    {calls : Nat} (fits : template.nesting + room ≤ calls) :
    resolveWithin s deeper calls c template = resolveUpTo s (depth + 1) c template := by
  induction depth generalizing template c room calls with
  | zero =>
    refine resolveWithin_eq fits fun inside fits' => ?_
    refine Enough.pieces template (fun id called led found => ?_) fits' stored
    exact absurd (low id called led found) (Nat.not_lt_zero _)
  | succ depth ih =>
    refine resolveWithin_eq fits fun inside fits' => ?_
    refine Enough.pieces template (fun id called led found n near c' stored' => ?_) fits' stored
    -- The template that is called has a lower height, and what it calls fits into its load.
    have step : ∀ next, called.Calls next → s.Leads id next :=
      fun next led' => ⟨called, found, led'⟩
    have lighter' : ∀ next t, called.Calls next → s.template? next = some t →
        t.nesting + load next ≤ load id :=
      fun next t led' found' => lighter id next t (step next led') found'
    have lower' : ∀ next t, called.Calls next → s.template? next = some t →
        height next < depth := by
      intro next t led' found'
      have below := lower id next t (step next led') found'
      have here := low id called led found
      omega
    exact ih stored' lighter' lower' (Nat.le_trans (light id called led found) near)

end Enough

end StoryLoom
