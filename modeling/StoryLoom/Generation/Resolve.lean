import StoryLoom.Generation.Data
import StoryLoom.Generation.Selection

/-!
# Resolve — the text of a template against a context

- `Expand`                      : how templates that a piece refers to are resolved
- `resolveOne`, `resolveWith`   : a piece, a template, given the resolution of others
- `resolveUpTo`                 : resolution with at most so many templates inside each other
- `Setting.depthBound`, `resolve` : resolution with more room than any that comes to an end needs

Within a template, resolution follows its pieces. It leaves the template in two places only: at a
format, and at a value made from templates. These go through `Expand`, so that the depth of templates
inside each other is all that has to be bounded.
-/

namespace StoryLoom

variable [PatternLibrary]

abbrev Expand := Context → Template → Naming String

def resolveParts (expand : Expand) : List Part → Naming String
  | [] => pure ""
  | p :: rest => do
    let c ← Naming.ofExcept p.context
    let text ← expand c p.template
    let others ← resolveParts expand rest
    return text ++ others

def resolveAnswer (expand : Expand) : Answer → Naming String
  | .text t => pure t
  | .parts ps => resolveParts expand ps

def resolveReference (s : Setting) (expand : Expand) (c : Context) (label : String)
    (legal : Option String) : Naming String :=
  match DataKey.parse? label with
  | none => throw (c.unsupported s label)
  | some key => do
    let a ← c.data s key legal
    resolveAnswer expand a

def enterScope (s : Setting) (c : Context) (label : String) (name : Option String) :
    Except GenerationError Context :=
  match ScopeKey.parse? label with
  | none => .error (c.unsupported s label)
  | some key => do
    let element ← c.scope s key name
    c.enter s element

def seriesElements (s : Setting) (c : Context) (source : String) (filter : SeriesFilter)
    (unique : Bool) (fragment : String) : Except GenerationError (List Element) :=
  match SeriesKey.parse? source with
  | none =>
    .error { problem := .unknownSeries source (c.describe s), fragment := some fragment }
  | some key => do
    let elements ← c.series s key
    filter.apply s.model (if unique then uniquify s.model elements else elements) fragment

def conditionHolds (s : Setting) (c : Context) (condition : String) :
    Except GenerationError Bool :=
  match Condition.parse? condition with
  | none => .error (c.unsupported s condition)
  | some parsed => do
    let fact ← c.condition s parsed.key
    return parsed.holds fact

def resolveFormat (s : Setting) (expand : Expand) (c : Context) (id : String)
    (onlyFor : Option FormatTarget) : Naming String :=
  if onlyFor.all c.isTarget then
    match s.dictionary.format? id with
    | none => throw (.unknownFormat id)
    | some template => expand c template
  else pure ""

mutual

def resolveOne (s : Setting) (expand : Expand) : Fragment → Context → Naming String
  | .literal text, _ => pure text
  | .reference label legal, c => resolveReference s expand c label legal
  | .scope label name body, c => do
    let inner ← Naming.ofExcept (enterScope s c label name)
    resolveWith s expand body inner
  | .series source separator filter unique body, c => do
    let elements ← Naming.ofExcept (seriesElements s c source filter unique
      (Fragment.series source separator filter unique body).describe)
    let texts ← elements.mapM fun element => do
      let inner ← Naming.ofExcept (c.enter s element)
      resolveWith s expand body inner
    return separator.intercalate texts
  | .line body, c => do
    let text ← resolveWith s expand body c
    return c.indent ++ text ++ s.dictionary.newline
  | .indent body, c => resolveWith s expand body (c.indented s)
  | .format id onlyFor, c => resolveFormat s expand c id onlyFor
  | .conditional condition body, c => do
    let holds ← Naming.ofExcept (conditionHolds s c condition)
    if holds then
      let text ← resolveWith s expand body c
      return c.indent ++ text
    else return ""

/-- The text of a template. An error notes the innermost piece it arose in. -/
def resolveWith (s : Setting) (expand : Expand) : List Fragment → Context → Naming String
  | [], _ => pure ""
  | f :: rest, c => do
    let text ← Naming.mapError (GenerationError.inFragment f.describe) (resolveOne s expand f c)
    let others ← resolveWith s expand rest c
    return text ++ others

end

/-- Resolution with at most `depth` templates inside each other. -/
def resolveUpTo (s : Setting) : Nat → Expand
  | 0, _, _ => throw { problem := .endless }
  | depth + 1, c, template => resolveWith s (resolveUpTo s depth) template c

namespace Setting

def templateCount (s : Setting) : Nat :=
  s.dictionary.formats.size + s.dictionary.types.size + 3 + s.model.codeBlocks.size

/-- The number of foci that contexts can have. -/
def focusCount (s : Setting) : Nat :=
  2 * s.model.components.size + s.model.codeBlocks.size + s.model.lines.size +
    (s.model.codeBlocks.values.flatMap CodeBlock.includes).length + 1

/-- More than the depth of any resolution that comes to an end. What a template does depends on the
focus, the one around it and the nearest story point: if all of them occur a second time with the same
template inside itself, they occur without end. -/
def depthBound (s : Setting) : Nat :=
  let foci := s.focusCount + 1
  (s.templateCount + 1) * (foci * foci * foci) + 1

end Setting

def resolve (s : Setting) (template : Template) (c : Context) : Naming String :=
  resolveUpTo s s.depthBound c template

end StoryLoom
