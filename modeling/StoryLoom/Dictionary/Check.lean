import StoryLoom.Dictionary.Basic
import StoryLoom.Dictionary.Error
import StoryLoom.Template.Vocabulary

/-!
# Check — validating and linting a dictionary

- `Dictionary.validate` : every pattern of the dictionary can be read
- `Defect`, `defects`   : what is wrong with one piece of a template
- `LintPlace`, `Finding`, `Dictionary.lint` : all defects of all templates, with their places

A template is examined level by level: first the pieces of a body in their order, then the bodies of
these pieces.
-/

namespace StoryLoom

variable [PatternLibrary]

def checkPattern (place : PatternPlace) : Option String → Except DictionaryError Unit
  | none => .ok ()
  | some pattern =>
    match LegalPattern.compile pattern with
    | .ok _ => .ok ()
    | .error cause => .error (.invalidPattern pattern place cause)

namespace Dictionary

/-- Check that all patterns can be read, the naming pattern first. -/
def validate (d : Dictionary) : Except DictionaryError Unit := do
  checkPattern .naming d.namingPattern
  d.types.entries.forM fun (name, entry) => checkPattern (.type name) entry.legalValues

end Dictionary

/-! ## Defects of one piece -/

inductive Defect
  | unknownReference (label : String)
  | badLegality (pattern : String) (cause : Pattern.PatternError)
  | unknownScope (label : String)
  | unnamedScope (label : String)
  | unknownSeries (source : String)
  | badFilter (pattern : String) (cause : Pattern.PatternError)
  | unknownFormat (id : String)
  | unknownCondition (condition : String)
  deriving DecidableEq, Repr

def Defect.message : Defect → String
  | .unknownReference label => "unknown reference '" ++ label ++ "'"
  | .badLegality pattern cause =>
    "invalid legality pattern '" ++ pattern ++ "': " ++ cause.message
  | .unknownScope label => "unknown scope '" ++ label ++ "'"
  | .unnamedScope label => "scope '" ++ label ++ "' needs a name"
  | .unknownSeries source => "unknown series source '" ++ source ++ "'"
  | .badFilter pattern cause => "invalid filter pattern '" ++ pattern ++ "': " ++ cause.message
  | .unknownFormat id => "unknown format '" ++ id ++ "'"
  | .unknownCondition condition => "unknown condition '" ++ condition ++ "'"

def patternDefect (defect : String → Pattern.PatternError → Defect) (pattern : String) :
    List Defect :=
  match LegalPattern.compile pattern with
  | .ok _ => []
  | .error cause => [defect pattern cause]

/-- A defect, if a condition fails. -/
def defectUnless (ok : Bool) (defect : Defect) : List Defect :=
  if ok then [] else [defect]

/-- The defects of one piece, without those of its body; `known` tells the ids of formats. -/
def Fragment.defects (known : String → Bool) : Fragment → List Defect
  | .literal _ => []
  | .reference label legal =>
    defectUnless (DataKey.parse? label).isSome (.unknownReference label) ++
      legal.toList.flatMap (patternDefect .badLegality)
  | .scope label name _ =>
    match ScopeKey.parse? label with
    | none => [.unknownScope label]
    | some key => defectUnless (!key.takesName || name.isSome) (.unnamedScope label)
  | .series source _ filter _ _ =>
    defectUnless (SeriesKey.parse? source).isSome (.unknownSeries source) ++
      (if filter.criterion = .none then [] else patternDefect .badFilter filter.pattern)
  | .line _ => []
  | .indent _ => []
  | .format id _ => defectUnless (known id) (.unknownFormat id)
  | .conditional condition _ =>
    defectUnless (Condition.parse? condition).isSome (.unknownCondition condition)

/-! ## Defects of a template -/

def levelDefects (known : String → Bool) (template : Template) : List Defect :=
  template.flatMap (Fragment.defects known)

mutual

/-- The defects in the body of a piece. -/
def Fragment.innerDefects (known : String → Bool) : Fragment → List Defect
  | .literal _ => []
  | .reference _ _ => []
  | .scope _ _ body => levelDefects known body ++ innerDefectsOf known body
  | .series _ _ _ _ body => levelDefects known body ++ innerDefectsOf known body
  | .line body => levelDefects known body ++ innerDefectsOf known body
  | .indent body => levelDefects known body ++ innerDefectsOf known body
  | .format _ _ => []
  | .conditional _ body => levelDefects known body ++ innerDefectsOf known body

def innerDefectsOf (known : String → Bool) : List Fragment → List Defect
  | [] => []
  | f :: rest => f.innerDefects known ++ innerDefectsOf known rest

end

/-- All defects of a template, level by level. -/
def templateDefects (known : String → Bool) (template : Template) : List Defect :=
  levelDefects known template ++ innerDefectsOf known template

/-! ## Linting -/

inductive LintPlace
  | dictionary
  | format (id : String)
  | type (name : String)
  | declaration
  | definition
  | call
  deriving DecidableEq, Repr

def LintPlace.describe : LintPlace → String
  | .dictionary => "dictionary"
  | .format id => "format '" ++ id ++ "'"
  | .type name => "type '" ++ name ++ "'"
  | .declaration => "function declaration"
  | .definition => "function definition"
  | .call => "function call"

inductive Fault
  | invalid (cause : DictionaryError)
  | defect (d : Defect)
  deriving DecidableEq, Repr

def Fault.message : Fault → String
  | .invalid cause => cause.message
  | .defect d => d.message

structure Finding where
  place : LintPlace
  fault : Fault
  deriving DecidableEq, Repr

def Finding.describe (f : Finding) : String :=
  f.place.describe ++ ": " ++ f.fault.message

namespace Dictionary

def sortedKeys {α : Type} (t : Table String α) : List String :=
  t.keys.mergeSort (fun a b => decide (a ≤ b))

def knowsFormat (d : Dictionary) (id : String) : Bool :=
  d.formats.contains id

/-- All templates of the dictionary with their places: formats, types, function templates. -/
def templates (d : Dictionary) : List (LintPlace × Template) :=
  (sortedKeys d.formats).map (fun id => (.format id, (d.formats.get? id).getD [])) ++
    (sortedKeys d.types).map
      (fun name => (.type name, ((d.types.get? name).map TypeEntry.format).getD [])) ++
    [(.declaration, d.function.declaration), (.definition, d.function.definition),
      (.call, d.function.call)]

/-- The finding that the dictionary is not valid, if so. -/
def validityFindings (d : Dictionary) : List Finding :=
  match d.validate with
  | .ok () => []
  | .error cause => [⟨.dictionary, .invalid cause⟩]

def templateFindings (d : Dictionary) (place : LintPlace) (template : Template) : List Finding :=
  (templateDefects d.knowsFormat template).map (fun defect => ⟨place, .defect defect⟩)

/-- All findings: validity first, then the templates in their order. -/
def lint (d : Dictionary) : List Finding :=
  d.validityFindings ++ d.templates.flatMap (fun t => d.templateFindings t.1 t.2)

end Dictionary
end StoryLoom
