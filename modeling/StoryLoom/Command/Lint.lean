import StoryLoom.Command.Outcome
import StoryLoom.Dictionary.Merge
import StoryLoom.Document.Dictionary

/-!
# Lint — the command that checks dictionaries

- `sources`  : the dictionary files at a path
- `Loaded`   : a file with the dictionary read from it, or the reason why there is none
- `subjects` : the dictionaries to check, each file for itself or all merged
- `lint`     : the command
-/

namespace StoryLoom
namespace Command

variable [PatternLibrary] [DocumentLibrary]

namespace Lint

def usage : String :=
  "Usage: dictionary_linter <dictionary.ron | dictionary_dir> [--merged]"

/-! ## Files -/

def isDictionaryFile (names : List String) : Bool :=
  names.getLast?.any (Filing.hasExtension "ron")

/-- The dictionary files at a path with their contents: the file itself, or the files of the folder
and of all folders below it, in the order of paths. -/
def sources (path : String) : Filing.Node → List (String × Filing.Node)
  | .file text => [(path, .file text)]
  | .folder entries =>
    ((Filing.Node.folder entries).files.filter (fun f => isDictionaryFile f.1)).map fun f =>
      (f.1.foldl Filing.join path, .file f.2)

/-- A file with the dictionary read from it, or the reason why there is none. -/
structure Loaded where
  path : String
  result : Except DictionaryError Dictionary

def load (sources : List (String × Filing.Node)) : List Loaded :=
  sources.map fun s => ⟨s.1, Dictionary.ofNode s.2⟩

def Loaded.report (l : Loaded) : Outcome :=
  match l.result with
  | .ok _ => .say ("  Loaded: " ++ l.path)
  | .error e => .warn ("  ERROR loading " ++ l.path ++ ": " ++ e.message)

/-- The dictionary of a file with its path, if it could be read. -/
def Loaded.labelled? (l : Loaded) : Option (String × Dictionary) :=
  match l.result with
  | .ok d => some (l.path, d)
  | .error _ => none

/-! ## Reports -/

/-- The dictionaries to check: each for itself, or all merged into one. -/
def subjects (merged : Bool) (loaded : List Loaded) : List (String × Dictionary) :=
  let single := loaded.filterMap Loaded.labelled?
  if merged then [("merged dictionary", Dictionary.blank.mergeAll (single.map Prod.snd))]
  else single

def subjectReport (subject : String × Dictionary) : Outcome :=
  let (label, d) := subject
  match d.lint with
  | [] =>
    .say (label ++ ": ok (" ++ toString d.formats.size ++ " formats, " ++
      toString d.types.size ++ " types)")
  | findings => .all (findings.map fun f => .say ("ERROR: " ++ label ++ ": " ++ f.describe))

def loadErrors (loaded : List Loaded) : Nat :=
  (loaded.filter (fun l => l.labelled?.isNone)).length

def issues (subjects : List (String × Dictionary)) : Nat :=
  (subjects.map (fun s => s.2.lint.length)).foldl (· + ·) 0

def report (merged : Bool) (loaded : List Loaded) : Outcome :=
  let checked := subjects merged loaded
  let errors := loadErrors loaded
  let found := issues checked
  let lines := Outcome.all (
    loaded.map Loaded.report ++
    [.say "\n=== Dictionary Lint Report ===\n"] ++
    checked.map subjectReport ++
    [.say ("\nSummary: " ++ toString loaded.length ++ " files, " ++ toString errors ++
      " load errors, " ++ toString found ++ " issues")])
  if errors = 0 && found = 0 then lines else lines.failed

def run (files : Filing.Lookup) (path : String) (merged : Bool) : Outcome :=
  match files path with
  | .error _ => (Outcome.warn ("ERROR: Path '" ++ path ++ "' does not exist")).failed
  | .ok node => report merged (load (sources path node))

end Lint

def lint (arguments : List String) (files : Filing.Lookup) : Outcome :=
  match arguments with
  | [] => .say Lint.usage
  | path :: rest =>
    if path = "--help" || path = "-h" then .say Lint.usage
    else
      match rest.find? (· != "--merged") with
      | some argument => (Outcome.warn ("Unknown argument: " ++ argument)).failed
      | none => Lint.run files path (!rest.isEmpty)

end Command
end StoryLoom
