import StoryLoom.Command.Outcome
import StoryLoom.Document.Story
import StoryLoom.Generator

/-!
# Preview — the command that prints the scripts of a story

- `Options`, `Options.parse` : the arguments
- `scriptReport`             : what is printed for one location
- `preview`                  : the command
-/

namespace StoryLoom
namespace Command

variable [PatternLibrary] [DocumentLibrary]

namespace Preview

def usage : String :=
  "Usage: preview --model <story.ron> --dictionary <path> [--slot <slot> [--subject <text>]] [--names]"

/-! ## Arguments -/

structure Arguments where
  model : Option String := none
  dictionary : Option String := none
  slot : Option String := none
  subject : Option String := none
  names : Bool := false
  deriving DecidableEq, Repr

structure Options where
  model : String
  dictionary : String
  slot : Option String
  subject : Option String
  names : Bool
  deriving DecidableEq, Repr

inductive Refusal
  | unknown (argument : String)
  | incomplete
  deriving DecidableEq, Repr

def Refusal.message : Refusal → String
  | .unknown argument => "Unknown argument: " ++ argument
  | .incomplete => "Both --model and --dictionary are required"

/-- An argument that takes the next one as its value, with what it sets. -/
def Arguments.set? (a : Arguments) (argument value : String) : Option Arguments :=
  if argument = "--model" then some { a with model := some value }
  else if argument = "--dictionary" then some { a with dictionary := some value }
  else if argument = "--slot" then some { a with slot := some value }
  else if argument = "--subject" then some { a with subject := some value }
  else none

/-- An argument that stands alone. -/
def Arguments.switch (a : Arguments) (argument : String) : Except Refusal Arguments :=
  if argument = "--names" then .ok { a with names := true } else .error (.unknown argument)

/-- Read arguments after others. The last of several values counts. -/
def Arguments.read (a : Arguments) : List String → Except Refusal Arguments
  | [] => .ok a
  | [argument] => a.switch argument
  | argument :: value :: rest =>
    match a.set? argument value with
    | some a => a.read rest
    | none =>
      match a.switch argument with
      | .ok a => a.read (value :: rest)
      | .error e => .error e

def Options.parse (arguments : List String) : Except Refusal Options := do
  let a ← ({} : Arguments).read arguments
  match a.model, a.dictionary with
  | some model, some dictionary =>
    return ⟨model, dictionary, a.slot, a.subject, a.names⟩
  | _, _ => throw .incomplete

def paths (arguments : List String) : List String :=
  match Options.parse arguments with
  | .ok o => [o.model, o.dictionary]
  | .error _ => []

/-! ## Reports -/

/-- How the list of names calls an identity. -/
def identityLabel : Identity → String
  | .component id => "Component(ComponentId(" ++ toString id.number ++ "))"
  | .codeBlock id => "CodeBlock(CodeBlockId(" ++ toString id.number ++ "))"
  | .line id => "DialogueLine(DialogueLineId(" ++ toString id.number ++ "))"

def padded (width : Nat) (text : String) : String :=
  text ++ String.ofList (List.replicate (width - text.length) ' ')

def nameLine (assignment : Identity × String) : String :=
  "  " ++ padded 24 assignment.2 ++ " " ++ identityLabel assignment.1

def nameReport (pass : Pass) : Outcome :=
  Outcome.all (.say "\n--- names ---" :: pass.assignedNames.map (fun a => .say (nameLine a)))

def scriptReport (g : Generator) (m : StoryModel) (names : Bool) (location : Location) : Outcome :=
  match g.runScript m location with
  | .error e => (Outcome.warn ("ERROR: " ++ location.describe ++ ": " ++ e.message)).failed
  | .ok (script, pass) =>
    Outcome.all [
      if names then nameReport pass else {},
      .say ("\n=== " ++ script.location.describe ++ " ==="),
      .say script.code]

/-- The locations that scripts are printed for: all, or the one asked for. -/
def locations (m : StoryModel) (o : Options) : List Location :=
  match o.slot with
  | some slot => [⟨slot, o.subject⟩]
  | none => m.scriptLocations

def report (g : Generator) (m : StoryModel) (o : Options) : Outcome :=
  let places := locations m o
  Outcome.all (
    .say ("Generating " ++ toString places.length ++ " script(s) with '" ++ g.dictionary.name ++ "'")
      :: places.map (scriptReport g m o.names))

/-- The settings for a path: a folder of dictionaries, or a single one. -/
def settingsFor (files : Filing.Lookup) (path : String) : GeneratorSettings :=
  match files path with
  | .ok (.folder _) => { folder := some path }
  | _ => { files := [path] }

def run (files : Filing.Lookup) (o : Options) : Outcome :=
  match StoryModel.load files o.model with
  | .error e =>
    (Outcome.warn ("ERROR: Failed to load model '" ++ o.model ++ "': " ++ e.message)).failed
  | .ok m =>
    match (settingsFor files o.dictionary).build files with
    | .error e =>
      (Outcome.warn
        ("ERROR: Failed to load dictionary '" ++ o.dictionary ++ "': " ++ e.message)).failed
    | .ok g => report g m o

end Preview

def preview (arguments : List String) (files : Filing.Lookup) : Outcome :=
  match arguments with
  | [] => .say Preview.usage
  | first :: _ =>
    if first = "--help" || first = "-h" then .say Preview.usage
    else
      match Preview.Options.parse arguments with
      | .error e => ((Outcome.warn e.message).andThen (.say Preview.usage)).failed
      | .ok o => Preview.run files o

end Command
end StoryLoom
