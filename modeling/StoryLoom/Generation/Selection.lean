import StoryLoom.Generation.Context

/-!
# Selection — dropping repeated elements of a series, and filtering it

- `ValueKey`, `valueKey` : what two elements share if they count as the same
- `uniquify`             : the first of all elements that count as the same
- `comparedTexts`        : the texts of an element that a filter looks at
- `SeriesFilter.apply`   : the elements with a text that the filter's pattern accepts
-/

namespace StoryLoom

variable [PatternLibrary]

/-! ## The same value -/

/-- What two elements share if they count as the same. -/
inductive ValueKey
  | text (t : String)
  | component (kind : String) (text : String) (binding : Option Binding)
  | binding (b : Binding)
  | codeBlock (source : Option String) (slot : String) (subject : Option String)
      (types : List String) (parameters : List String)
  | line (id : LineId)
  /-- An element that does not exist is like itself only. -/
  | unresolved (element : Element)
  deriving DecidableEq, Repr

def valueKey (m : StoryModel) (element : Element) : ValueKey :=
  match element with
  | .text t => .text t
  | .component id =>
    match m.component? id with
    | some c => .component c.kind.name c.text (c.knowIt?.map KnowIt.binding)
    | none => .unresolved element
  | .binding id =>
    match m.knowIt? id with
    | some k => .binding k.binding
    | none => .unresolved element
  | .codeBlock id =>
    match m.codeBlock? id with
    | some b =>
      .codeBlock b.source b.slot b.subject b.types
        ((b.parameters.filterMap m.component?).map Component.text)
    | none => .unresolved element
  | .line id =>
    match m.line? id with
    | some _ => .line id
    | none => .unresolved element

def uniquify (m : StoryModel) (elements : List Element) : List Element :=
  elements.eraseDupsBy (fun a b => valueKey m a = valueKey m b)

/-! ## Filtering -/

def componentSlots (m : StoryModel) (c : Component) : List String :=
  (c.script?.elim [] m.blocksOf).map CodeBlock.slot

/-- The texts of an element that a filter looks at. A text is looked at directly. -/
def comparedTexts (m : StoryModel) (bySlot : Bool) (element : Element) :
    Except GenerationError (List String) :=
  match element with
  | .text t => .ok [t]
  | .component id =>
    match m.component? id with
    | some c => .ok (if bySlot then componentSlots m c else [c.text])
    | none => .error (.dangling element)
  | .binding id =>
    match m.component? id with
    | some c => .ok (if bySlot then [] else [c.text])
    | none => .error (.dangling element)
  | .codeBlock id =>
    match m.codeBlock? id with
    | some b => .ok (if bySlot then [b.slot] else ((m.blockOwner? b).map Component.text).toList)
    | none => .error (.dangling element)
  | .line id =>
    match m.line? id with
    | some l => .ok (if bySlot then [] else [l.text])
    | none => .error (.dangling element)

def keepMatching (m : StoryModel) (bySlot : Bool) (p : LegalPattern) :
    List Element → Except GenerationError (List Element)
  | [] => .ok []
  | e :: rest => do
    let texts ← comparedTexts m bySlot e
    let kept ← keepMatching m bySlot p rest
    return if texts.any p.isLegal then e :: kept else kept

/-- The elements that a filter keeps. `fragment` is what an unreadable pattern is blamed on. -/
def SeriesFilter.apply (filter : SeriesFilter) (m : StoryModel) (elements : List Element)
    (fragment : String) : Except GenerationError (List Element) :=
  if filter.criterion = .none then .ok elements
  else
    match LegalPattern.compile filter.pattern with
    | .error cause =>
      .error { problem := .badFilter filter.pattern cause, fragment := some fragment }
    | .ok p => keepMatching m (filter.criterion = .slot) p elements

end StoryLoom
