import StoryLoom.Command.Lint
import StoryLoom.Command.Preview
import StoryLoom.Document.Reader
import StoryLoom.Pattern.Compile

/-!
# Main — the commands at a terminal

- `nodeAt`   : the file or folder at a path
- `snapshot` : the files and folders that a command reads
- `main`     : the first argument names the command, the others are for it

Here the commands get the libraries that they read patterns and documents with.
-/

namespace StoryLoom
namespace Command

/-- The file or folder at a path. What cannot be read is left out of folders. -/
partial def nodeAt (path : String) : IO Filing.Node := do
  let place := System.mkFilePath [path]
  if ← place.isDir then
    let mut entries := []
    for entry in ← place.readDir do
      try
        let node ← nodeAt (Filing.join path entry.fileName)
        entries := (entry.fileName, node) :: entries
      catch _ => pure ()
    return .folder entries.reverse
  else
    return .file (← IO.FS.readFile place)

def readPath (path : String) : IO (Except FileError Filing.Node) := do
  try
    return .ok (← nodeAt path)
  catch
    | .inappropriateType .. => return .error .notFolder
    | _ => return .error .missing

def snapshot (paths : List String) : IO Filing.Lookup := do
  let mut nodes := []
  for path in paths do
    nodes := (path, ← readPath path) :: nodes
  let found := nodes
  return fun path => (found.lookup path).getD (.error .missing)

def finish (o : Outcome) : IO UInt32 := do
  IO.print o.out
  IO.eprint o.err
  return UInt32.ofNat o.code

def usage : Outcome :=
  .all [.say Preview.usage, .say Lint.usage]

end Command
end StoryLoom

open StoryLoom Command Libraries in
def main (arguments : List String) : IO UInt32 := do
  match arguments with
  | "preview" :: rest => finish (preview rest (← snapshot (Preview.paths rest)))
  | "dictionary_linter" :: rest => finish (lint rest (← snapshot (rest.take 1)))
  | _ => finish usage.failed
