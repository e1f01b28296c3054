import StoryLoom.Document.Reader
import StoryLoom.Generator
import StoryLoom.Pattern.Compile
import StoryLoom.Proofs.Dictionary.Clean
import StoryLoom.Proofs.Table.Extending

/-!
# Layers — dictionaries laid over each other

- `addWords_eq`, `addWords_assoc` : words that add up, each new one once
- `extend_assoc`, `extend_self`   : tables that are laid over each other
- `topmost`, `lastOf`             : values that replace others unless they are silent
- `merge_assoc`, `merge_self`, `merge_blank` : the laws of laying dictionaries over each other
- `Stacked`                       : what a dictionary with layers on it holds
- `build_eq_ok_iff`               : a generator is built just if the dictionary with all layers is valid
- `last_layer_decides`            : the dictionary that a generator is built with

All parts of a dictionary but its words and tables follow one rule, and differ in what counts as silent.
Tables follow that rule key by key, and their keys add up as words do.
-/

namespace StoryLoom
namespace Dictionary

/-! ## Words -/

section Words

variable {a b c : List String} {w x : String}

theorem addWord_of_mem (known : w ∈ a) : addWord a w = a := by
  simp [addWord, known]

theorem addWord_of_not_mem (new : w ∉ a) : addWord a w = a ++ [w] := by
  simp [addWord, new]

theorem mem_addWord : x ∈ addWord a w ↔ x ∈ a ∨ x = w := by
  by_cases known : w ∈ a
  · rw [addWord_of_mem known]
    constructor
    · exact .inl
    · rintro (old | rfl)
      · exact old
      · exact known
  · simp [addWord_of_not_mem known]

theorem addWords_cons : addWords a (w :: b) = addWords (addWord a w) b := rfl

/-- Adding two lists is adding one after the other. -/
theorem addWords_append : addWords a (b ++ c) = addWords (addWords a b) c :=
  List.foldl_append

/-- A list of words holds the words of both lists, and no others. -/
theorem mem_addWords : x ∈ addWords a b ↔ x ∈ a ∨ x ∈ b := by
  induction b generalizing a with
  | nil => simp [addWords]
  | cons w rest ih => rw [addWords_cons, ih, mem_addWord, List.mem_cons, or_assoc]

/-- Words that are all known add nothing. -/
theorem addWords_of_subset (known : b ⊆ a) : addWords a b = a := by
  induction b with
  | nil => rfl
  | cons w rest ih =>
    rw [addWords_cons, addWord_of_mem (known List.mem_cons_self)]
    exact ih fun x hx => known (List.mem_cons_of_mem w hx)

/-- Adding words that have a further one is adding them and then the further one. -/
theorem addWords_addWord : addWords a (addWord b w) = addWord (addWords a b) w := by
  by_cases known : w ∈ b
  · rw [addWord_of_mem known, addWord_of_mem (mem_addWords.2 (.inr known))]
  · rw [addWord_of_not_mem known, addWords_append]
    rfl

/-- Three lists of words may be joined from either side. -/
theorem addWords_assoc : addWords (addWords a b) c = addWords a (addWords b c) := by
  induction c generalizing b with
  | nil => rfl
  | cons w rest ih =>
    calc
      addWords (addWords a b) (w :: rest)
          = addWords (addWord (addWords a b) w) rest := rfl
      _ = addWords (addWords a (addWord b w)) rest := by rw [addWords_addWord]
      _ = addWords a (addWords (addWord b w) rest) := ih
      _ = addWords a (addWords b (w :: rest)) := rfl

/-- The new words come behind the old ones, each once and in the order in which they came first. -/
theorem addWords_eq : addWords a b = a ++ (b.filter (fun w => w ∉ a)).eraseDups := by
  induction b generalizing a with
  | nil => simp [addWords]
  | cons w rest ih =>
    by_cases known : w ∈ a
    · rw [addWords_cons, addWord_of_mem known, ih, List.filter_cons_of_neg (by simpa using known)]
    · -- The words added later are new to the list that has this one already.
      have others : rest.filter (fun v => v ∉ a ++ [w]) =
          (rest.filter (fun v => v ∉ a)).filter (fun v => !v == w) := by
        rw [List.filter_filter]
        refine List.filter_congr ?_
        intro v _
        by_cases same : v = w <;> by_cases old : v ∈ a <;> simp [same, old]
      rw [addWords_cons, addWord_of_not_mem known, ih, others,
        List.filter_cons_of_pos (by simpa using known), List.eraseDups_cons, List.append_assoc]
      rfl

end Words

/-! ## Tables -/

section Tables

variable {α : Type}

theorem map_fst_put (l : List (String × α)) (key : String) (value : α) :
    (Table.put l key value).map Prod.fst = addWord (l.map Prod.fst) key := by
  induction l with
  | nil => rfl
  | cons p rest ih =>
    rcases p with ⟨k, v⟩
    -- A known key keeps its place, and a new one comes last, as with words.
    by_cases first : k = key
    · subst first
      simp [Table.put, addWord]
    · by_cases known : key ∈ rest.map Prod.fst
      · rw [addWord_of_mem known] at ih
        rw [List.map_cons, addWord_of_mem (List.mem_cons_of_mem k known), Table.put, if_neg first,
          List.map_cons, ih]
      · have new : key ∉ k :: rest.map Prod.fst := by
          rw [List.mem_cons]
          rintro (rfl | later)
          · exact first rfl
          · exact known later
        rw [addWord_of_not_mem known] at ih
        rw [List.map_cons, addWord_of_not_mem new, Table.put, if_neg first, List.map_cons, ih]
        rfl

/-- The keys of a table that is extended add up as words do. -/
theorem keys_extend (t u : Table String α) : (t.extend u).keys = addWords t.keys u.keys := by
  -- The pairs are inserted one after the other, so the induction is on their list alone.
  have adds : ∀ pairs : List (String × α), (t.insertAll pairs).keys =
      addWords t.keys (pairs.map Prod.fst) := by
    intro pairs
    induction pairs generalizing t with
    | nil => rfl
    | cons p rest ih =>
      calc
        (t.insertAll (p :: rest)).keys = ((t.insert p.1 p.2).insertAll rest).keys := rfl
        _ = addWords (t.insert p.1 p.2).keys (rest.map Prod.fst) := ih (t.insert p.1 p.2)
        _ = addWords (addWord t.keys p.1) (rest.map Prod.fst) := by
          rw [Table.keys, Table.insert, map_fst_put]
          rfl
        _ = addWords t.keys ((p :: rest).map Prod.fst) := rfl
  exact adds u.entries

/-- Three tables may be laid over each other from either side. -/
theorem extend_assoc (t u v : Table String α) : (t.extend u).extend v = t.extend (u.extend v) := by
  refine Table.ext_get? ?_ ?_
  · simp only [keys_extend, addWords_assoc]
  · intro k
    simp only [Table.get?_extend, Option.or_assoc]

theorem extend_self (t : Table String α) : t.extend t = t := by
  refine Table.ext_get? ?_ ?_
  · rw [keys_extend, addWords_of_subset (List.Subset.refl _)]
  · intro k
    rw [Table.get?_extend, Option.or_self]

end Tables

/-! ## Values that replace others -/

section Values

variable {α : Type} {speaks : α → Bool}

/-- The upper value, unless it is silent. -/
def topmost (speaks : α → Bool) (lower upper : α) : α :=
  if speaks upper then upper else lower

/-- The last of some values that is not silent, else the one below them. -/
def lastOf (speaks : α → Bool) (below : α) (values : List α) : α :=
  (values.filter speaks).getLast?.getD below

/-- Of three values the last that speaks is found from either side. -/
theorem topmost_assoc (a b c : α) :
    topmost speaks (topmost speaks a b) c = topmost speaks a (topmost speaks b c) := by
  unfold topmost
  by_cases top : speaks c = true <;> simp [top]

theorem topmost_self (a : α) : topmost speaks a a = a := by
  simp [topmost]

theorem lastOf_cons (below v : α) (values : List α) :
    lastOf speaks below (v :: values) = lastOf speaks (topmost speaks below v) values := by
  by_cases spoke : speaks v = true
  · simp [lastOf, topmost, spoke, List.getLast?_cons]
  · simp [lastOf, topmost, spoke]

end Values

/-! ## Laying one dictionary over another -/

section Merging

variable {α : Type}

/-- A value that gives way to a silent one goes by the general rule. -/
theorem unlessSilent_eq [DecidableEq α] (silent lower upper : α) :
    unlessSilent silent lower upper = topmost (fun a => decide (a ≠ silent)) lower upper := by
  by_cases same : upper = silent <;> simp [unlessSilent, topmost, same]

theorem overTemplate_eq (lower upper : Template) :
    overTemplate lower upper = topmost (fun template => !template.isEmpty) lower upper := by
  cases upper <;> rfl

theorem overOption_eq (lower upper : Option α) :
    overOption lower upper = topmost Option.isSome lower upper := by
  cases upper <;> rfl

/-- Function templates may be laid over each other from either side. -/
theorem overlay_assoc (a b c : FunctionTemplates) :
    (a.overlay b).overlay c = a.overlay (b.overlay c) := by
  simp only [FunctionTemplates.overlay, overTemplate_eq, topmost_assoc]

/-- Three dictionaries may be merged from either side. -/
theorem merge_assoc (a b c : Dictionary) : (a.merge b).merge c = a.merge (b.merge c) := by
  simp only [merge, unlessSilent_eq, overOption_eq, topmost_assoc, overlay_assoc, addWords_assoc,
    extend_assoc]

/-- A dictionary merged with itself stays as it is. -/
theorem merge_self (a : Dictionary) : a.merge a = a := by
  have words : addWords a.reservedWords a.reservedWords = a.reservedWords :=
    addWords_of_subset (List.Subset.refl _)
  simp only [merge, FunctionTemplates.overlay, unlessSilent_eq, overTemplate_eq, overOption_eq,
    topmost_self, words, extend_self]

/-- A dictionary with no name and nothing set changes nothing. -/
theorem merge_blank (a : Dictionary) : a.merge blank = a := rfl

/-- Laying a pile of dictionaries over another one is laying them over it in turn. -/
theorem merge_mergeAll (a b : Dictionary) (layers : List Dictionary) :
    a.merge (b.mergeAll layers) = (a.merge b).mergeAll layers := by
  induction layers generalizing b with
  | nil => rfl
  | cons c rest ih =>
    calc
      a.merge (b.mergeAll (c :: rest)) = a.merge ((b.merge c).mergeAll rest) := rfl
      _ = (a.merge (b.merge c)).mergeAll rest := ih (b.merge c)
      _ = ((a.merge b).merge c).mergeAll rest := by rw [merge_assoc]
      _ = (a.merge b).mergeAll (c :: rest) := rfl

/-- A group of layers may be merged beforehand. -/
theorem mergeAll_group (base first : Dictionary) (before group after : List Dictionary) :
    base.mergeAll (before ++ first.mergeAll group :: after) =
      base.mergeAll (before ++ first :: group ++ after) := by
  have parts : ∀ l m, base.mergeAll (l ++ m) = (base.mergeAll l).mergeAll m := fun _ _ =>
    List.foldl_append
  calc
    base.mergeAll (before ++ first.mergeAll group :: after)
        = ((base.mergeAll before).merge (first.mergeAll group)).mergeAll after := parts _ _
    _ = (((base.mergeAll before).merge first).mergeAll group).mergeAll after := by
      rw [merge_mergeAll]
    _ = (base.mergeAll (before ++ first :: group)).mergeAll after := by
      rw [parts before]
      rfl
    _ = base.mergeAll (before ++ first :: group ++ after) := (parts _ _).symm

/-- A part that is replaced by upper ones is that of the last layer in which it is not silent. -/
theorem mergeAll_of_topmost {speaks : α → Bool} (part : Dictionary → α)
    (replaced : ∀ a b, part (a.merge b) = topmost speaks (part a) (part b)) (base : Dictionary)
    (layers : List Dictionary) :
    part (base.mergeAll layers) = lastOf speaks (part base) (layers.map part) := by
  induction layers generalizing base with
  | nil => rfl
  | cons layer rest ih =>
    calc
      part (base.mergeAll (layer :: rest)) = part ((base.merge layer).mergeAll rest) := rfl
      _ = lastOf speaks (part (base.merge layer)) (rest.map part) := ih (base.merge layer)
      _ = lastOf speaks (topmost speaks (part base) (part layer)) (rest.map part) := by rw [replaced]
      _ = lastOf speaks (part base) ((layer :: rest).map part) := (lastOf_cons _ _ _).symm

/-- The reserved words of all layers are added up. -/
theorem reservedWords_mergeAll (base : Dictionary) (layers : List Dictionary) :
    (base.mergeAll layers).reservedWords =
      addWords base.reservedWords (layers.flatMap reservedWords) := by
  induction layers generalizing base with
  | nil => rfl
  | cons layer rest ih =>
    rw [List.flatMap_cons, addWords_append]
    exact ih (base.merge layer)

end Merging

/-! ## The dictionary of a generator -/

/-- What a dictionary with layers on it holds, under the pattern of the settings. -/
structure Stacked (g : GeneratorSettings) (layers : List Dictionary) (d : Dictionary) : Prop where
  name : d.name = lastOf (fun a => a ≠ "") g.dictionary.name (layers.map Dictionary.name)
  indent : d.indent = lastOf (fun a => a ≠ blank.indent) g.dictionary.indent
    (layers.map Dictionary.indent)
  newline : d.newline = lastOf (fun a => a ≠ blank.newline) g.dictionary.newline
    (layers.map Dictionary.newline)
  /-- The pattern of the settings stands above all layers. -/
  naming : d.namingPattern = g.namingPattern.or
    (lastOf Option.isSome g.dictionary.namingPattern (layers.map namingPattern))
  /-- The words of the lowest dictionary stay; each new one is added where it comes first. -/
  words : d.reservedWords = g.dictionary.reservedWords ++
    ((layers.flatMap reservedWords).filter (fun w => w ∉ g.dictionary.reservedWords)).eraseDups
  type : ∀ name, d.type? name =
    lastOf Option.isSome (g.dictionary.type? name) (layers.map fun layer => layer.type? name)
  format : ∀ id, d.format? id =
    lastOf Option.isSome (g.dictionary.format? id) (layers.map fun layer => layer.format? id)
  declaration : d.function.declaration = lastOf (fun template => !template.isEmpty)
    g.dictionary.function.declaration (layers.map fun layer => layer.function.declaration)
  definition : d.function.definition = lastOf (fun template => !template.isEmpty)
    g.dictionary.function.definition (layers.map fun layer => layer.function.definition)
  call : d.function.call = lastOf (fun template => !template.isEmpty)
    g.dictionary.function.call (layers.map fun layer => layer.function.call)
  dialogueType : d.dialogueType =
    lastOf Option.isSome g.dictionary.dialogueType (layers.map Dictionary.dialogueType)
  dialogueLineType : d.dialogueLineType =
    lastOf Option.isSome g.dictionary.dialogueLineType (layers.map Dictionary.dialogueLineType)

/-- A generator's dictionary holds, field by field, what the last layer that has it says. -/
theorem stacked_layered (g : GeneratorSettings) (layers : List Dictionary) :
    Stacked g layers (g.layered layers) where
  name := mergeAll_of_topmost Dictionary.name (fun _ _ => unlessSilent_eq _ _ _) _ _
  indent := mergeAll_of_topmost Dictionary.indent (fun _ _ => unlessSilent_eq _ _ _) _ _
  newline := mergeAll_of_topmost Dictionary.newline (fun _ _ => unlessSilent_eq _ _ _) _ _
  naming := congrArg g.namingPattern.or
    (mergeAll_of_topmost namingPattern (fun _ _ => overOption_eq _ _) _ _)
  words := (reservedWords_mergeAll g.dictionary layers).trans addWords_eq
  type name := mergeAll_of_topmost (fun d => d.type? name)
    (fun a b => (Table.get?_extend a.types b.types name).trans (overOption_eq _ _)) _ _
  format id := mergeAll_of_topmost (fun d => d.format? id)
    (fun a b => (Table.get?_extend a.formats b.formats id).trans (overOption_eq _ _)) _ _
  declaration :=
    mergeAll_of_topmost (fun d => d.function.declaration) (fun _ _ => overTemplate_eq _ _) _ _
  definition :=
    mergeAll_of_topmost (fun d => d.function.definition) (fun _ _ => overTemplate_eq _ _) _ _
  call := mergeAll_of_topmost (fun d => d.function.call) (fun _ _ => overTemplate_eq _ _) _ _
  dialogueType := mergeAll_of_topmost Dictionary.dialogueType (fun _ _ => overOption_eq _ _) _ _
  dialogueLineType :=
    mergeAll_of_topmost Dictionary.dialogueLineType (fun _ _ => overOption_eq _ _) _ _

section Building

variable [PatternLibrary] [DocumentLibrary]

/-- A generator is built just if all layers can be read and the dictionary with them on it is valid. -/
theorem build_eq_ok_iff {g : GeneratorSettings} {files : Filing.Lookup} {made : Generator} :
    g.build files = .ok made ↔ ∃ lower upper, g.folderLayers files = .ok lower ∧
      g.fileLayers files = .ok upper ∧ (g.layered (lower ++ upper)).validate = .ok () ∧
      made = ⟨g.layered (lower ++ upper), ⟨g.maxAttempts, g.namingPattern⟩⟩ := by
  have mapped : ∀ d : Dictionary, d.validate.mapError GeneratorError.dictionary = .ok () ↔
      d.validate = .ok () := by
    intro d
    cases d.validate with
    | ok u => exact ⟨fun _ => rfl, fun _ => rfl⟩
    | error e => exact ⟨nofun, nofun⟩
  constructor
  · intro built
    rcases Results.bind_eq_ok_iff.1 built with ⟨lower, below, built⟩
    rcases Results.bind_eq_ok_iff.1 built with ⟨upper, above, built⟩
    rcases Results.bind_eq_ok_iff.1 built with ⟨⟨⟩, valid, built⟩
    exact ⟨lower, upper, below, above, (mapped _).1 valid, (Except.ok.inj built).symm⟩
  · rintro ⟨lower, upper, below, above, valid, rfl⟩
    refine Results.bind_eq_ok_iff.2 ⟨lower, below, Results.bind_eq_ok_iff.2 ⟨upper, above, ?_⟩⟩
    exact Results.bind_eq_ok_iff.2 ⟨(), (mapped _).2 valid, rfl⟩

/-- Laying dictionaries over each other is associative, a dictionary over itself changes nothing, and neither
does one with no name and nothing set. So every part of a generator's dictionary is that of the last layer in
which it is not silent, and words add up, however the layers are grouped. -/
theorem last_layer_decides :
    (∀ a b c : Dictionary, (a.merge b).merge c = a.merge (b.merge c)) ∧
    (∀ a : Dictionary, a.merge a = a) ∧
    (∀ a : Dictionary, a.merge blank = a) ∧
    ∀ g : GeneratorSettings,
      (∀ layers, Stacked g layers (g.layered layers)) ∧
      (∀ (before group after : List Dictionary) (first : Dictionary),
        g.layered (before ++ first.mergeAll group :: after) =
          g.layered (before ++ first :: group ++ after)) ∧
      ∀ (files : Filing.Lookup) (made : Generator), g.build files = .ok made →
        ∃ lower upper, g.folderLayers files = .ok lower ∧ g.fileLayers files = .ok upper ∧
          made.dictionary = g.layered (lower ++ upper) := by
  refine ⟨merge_assoc, merge_self, merge_blank, ?_⟩
  intro g
  refine ⟨stacked_layered g, ?_, ?_⟩
  · intro before group after first
    unfold GeneratorSettings.layered
    rw [mergeAll_group]
  · intro files made built
    rcases build_eq_ok_iff.1 built with ⟨lower, upper, below, above, -, rfl⟩
    exact ⟨lower, upper, below, above, rfl⟩

end Building

open Libraries

/-- A folder with one dictionary, and a second dictionary beside it that has the same format. -/
def shelf : Filing.Lookup := fun path =>
  if path = "base" then
    .ok (.folder [("notes.txt", .file ""), ("low.ron", .file
      "(name: \"Low\", reserved_words: [\"if\"], formats: \x7b\"file\": [Literal(\"low\")]\x7d)")])
  else if path = "top.ron" then
    .ok (.file "(name: \"Top\", function: (call: [Line([Format(id: \"file\")])]),
      formats: \x7b\"file\": [Reference(data: \"name\")]\x7d)")
  else .error .missing

/-- A generator that is built from a folder and a file. -/
theorem shelf_layered :
    let g : GeneratorSettings := { folder := some "base", files := ["top.ron"] }
    ∃ made, g.build shelf = .ok made ∧ ∃ lower upper,
      g.folderLayers shelf = .ok lower ∧ g.fileLayers shelf = .ok upper ∧
        made.dictionary = g.layered (lower ++ upper) := by
  intro g
  have builds : ∃ made, g.build shelf = .ok made := Results.exists_of_isOk (by decide +kernel)
  rcases builds with ⟨made, built⟩
  exact ⟨made, built, (last_layer_decides.2.2.2 g).2.2 shelf made built⟩

end Dictionary
end StoryLoom
