import StoryLoom.Dictionary.Merge
import StoryLoom.Document.Dictionary
import StoryLoom.Generation.Pass

/-!
# Generator — one script for every place that causes hook into

- `GeneratorError`    : why nothing is generated
- `GeneratorSettings` : what a generator is built from
- `Generator`         : a dictionary with the rules for names
- `Generator.scripts` : all scripts of a story

A generator is built from layers: a dictionary given as such, the files of a folder in the order of
their names, single files in the order given. Every script is made in a pass of its own, so no name
leaks from one script into another.
-/

namespace StoryLoom

variable [PatternLibrary] [DocumentLibrary]

inductive GeneratorError
  | generation (cause : GenerationError)
  | dictionary (cause : DictionaryError)
  | unreadable (cause : FileError)
  | unknownSlot (name : String)
  deriving DecidableEq, Repr

def GeneratorError.message : GeneratorError → String
  | .generation cause => "generation error: " ++ cause.message
  | .dictionary cause => "dictionary error: " ++ cause.message
  | .unreadable cause => "IO error: " ++ cause.message
  | .unknownSlot name => "no slot named '" ++ name ++ "' in the story model"

structure Generator where
  dictionary : Dictionary
  rules : NamingRules

structure GeneratorSettings where
  /-- The lowest layer. -/
  dictionary : Dictionary := .blank
  /-- The folder of the next layers. -/
  folder : Option String := none
  /-- The files of the layers on top. -/
  files : List String := []
  /-- A pattern that replaces that of the dictionary. -/
  namingPattern : Option String := none
  maxAttempts : Nat := Namer.defaultMaxAttempts

namespace GeneratorSettings

/-- The entries of a folder that are dictionaries, in the order of their names. -/
def dictionariesAmong (entries : List (String × Filing.Node)) : List (String × Filing.Node) :=
  (entries.filter (fun e => Filing.hasExtension "ron" e.1)).mergeSort
    (fun a b => decide (a.1 ≤ b.1))

def folderLayers (g : GeneratorSettings) (files : Filing.Lookup) :
    Except GeneratorError (List Dictionary) :=
  match g.folder with
  | none => .ok []
  | some folder => do
    let entries ← ((files folder).bind Filing.Node.listing).mapError .unreadable
    (dictionariesAmong entries).mapM fun e => (Dictionary.ofNode e.2).mapError .dictionary

def fileLayers (g : GeneratorSettings) (files : Filing.Lookup) :
    Except GeneratorError (List Dictionary) :=
  g.files.mapM fun path => (Dictionary.load files path).mapError .dictionary

/-- The dictionary with these layers on it, and the pattern for names. -/
def layered (g : GeneratorSettings) (layers : List Dictionary) : Dictionary :=
  let d := g.dictionary.mergeAll layers
  { d with namingPattern := g.namingPattern.or d.namingPattern }

/-- Build the generator. All patterns of its dictionary can be read. -/
def build (g : GeneratorSettings) (files : Filing.Lookup) : Except GeneratorError Generator := do
  let lower ← g.folderLayers files
  let upper ← g.fileLayers files
  let d := g.layered (lower ++ upper)
  d.validate.mapError .dictionary
  return ⟨d, { maxAttempts := g.maxAttempts, pattern := g.namingPattern }⟩

end GeneratorSettings

structure Script where
  location : Location
  code : String
  deriving DecidableEq, Repr

namespace Generator

def beginPass (g : Generator) (m : StoryModel) (location : Location) : Pass :=
  Pass.start m g.dictionary location g.rules

/-- The text of a format against the whole story, and the pass with the names given for it. -/
def runFormat (g : Generator) (m : StoryModel) (location : Location) (id : String) :
    Except GeneratorError (String × Pass) :=
  match g.dictionary.format? id with
  | none => .error (.generation (.unknownFormat id))
  | some template =>
    match (g.beginPass m location).resolve template with
    | (.ok text, pass) => .ok (text, pass)
    | (.error cause, _) => .error (.generation cause)

def resolveFormat (g : Generator) (m : StoryModel) (location : Location) (id : String) :
    Except GeneratorError String :=
  (g.runFormat m location id).map Prod.fst

/-- The script for a location by the format of its slot, and the pass with the names given for it. -/
def runScript (g : Generator) (m : StoryModel) (location : Location) :
    Except GeneratorError (Script × Pass) :=
  match m.slot? location.slot with
  | none => .error (.unknownSlot location.slot)
  | some slot => (g.runFormat m location slot.format).map fun r => (⟨location, r.1⟩, r.2)

def script (g : Generator) (m : StoryModel) (location : Location) :
    Except GeneratorError Script :=
  (g.runScript m location).map Prod.fst

/-- The scripts for all locations of causes, in story order. The first failure ends it. -/
def scripts (g : Generator) (m : StoryModel) : Except GeneratorError (List Script) :=
  m.scriptLocations.mapM (g.script m)

end Generator
end StoryLoom
