/-!
# Tree — files and folders as a value

- `FileError`   : why a file or folder cannot be read
- `Node`        : a file with its text, or a folder with its named entries
- `Node.find`   : the node of a written path
- `Node.text`   : the text of a file
- `Node.listing`: the entries of a folder
- `Node.files`  : all files below a folder, with their paths
- `hasExtension`: the rule that a name ends in an extension
-/

namespace StoryLoom

inductive FileError
  | missing
  | notFolder
  | isFolder
  deriving DecidableEq, Repr

def FileError.message : FileError → String
  | .missing => "No such file or directory (os error 2)"
  | .notFolder => "Not a directory (os error 20)"
  | .isFolder => "Is a directory (os error 21)"

namespace Filing

inductive Node
  | file (text : String)
  | folder (entries : List (String × Node))
  deriving Repr

abbrev Lookup := String → Except FileError Node

/-! ## Names and paths -/

/-- Whether a name has text, a dot and the extension, in this order, and no dot after its last. -/
def hasExtension (extension : String) (name : String) : Bool :=
  match name.toList.reverse.span (· != '.') with
  | (last, '.' :: before) => last.reverse == extension.toList && !before.isEmpty
  | _ => false

def join (folder name : String) : String :=
  if folder.endsWith "/" then folder ++ name else folder ++ "/" ++ name

/-- The order of paths: name by name. -/
def pathLe : List String → List String → Bool
  | [], _ => true
  | _ :: _, [] => false
  | a :: as, b :: bs => if a = b then pathLe as bs else decide (a ≤ b)

namespace Node

def text : Node → Except FileError String
  | file text => .ok text
  | folder _ => .error .isFolder

def listing : Node → Except FileError (List (String × Node))
  | file _ => .error .notFolder
  | folder entries => .ok entries

def isFolder : Node → Bool
  | file _ => false
  | folder _ => true

def entry? : List (String × Node) → String → Option Node
  | [], _ => none
  | (name, node) :: rest, wanted => if name = wanted then some node else entry? rest wanted

/-- Follow the names of a path from the node on top of a stack of folders. A dot stays, two dots go
back. An empty name stays too, but only in a folder. -/
def follow : List Node → List String → Except FileError Node
  | [], _ => .error .missing
  | node :: _, [] => .ok node
  | node :: above, name :: rest =>
    match node with
    | file _ => .error .notFolder
    | folder entries =>
      if name = "" || name = "." then follow (node :: above) rest
      else if name = ".." then follow (if above.isEmpty then [node] else above) rest
      else
        match entry? entries name with
        | none => .error .missing
        | some next => follow (next :: node :: above) rest

/-- The node that a path written from here leads to. Nothing is known above this node. -/
def find (root : Node) (path : String) : Except FileError Node :=
  if path.isEmpty || path.startsWith "/" then .error .missing
  else follow [root] (path.splitOn "/")

/-- Put a node below the names of a path, with the folders on the way. -/
def place (node : Node) : List String → List (String × Node) → List (String × Node)
  | [], entries => entries
  | [name], entries => entries.filter (·.1 != name) ++ [(name, node)]
  | name :: rest, entries =>
    let inner :=
      match entry? entries name with
      | some (folder inner) => inner
      | _ => []
    entries.filter (·.1 != name) ++ [(name, folder (node.place rest inner))]

mutual

def filesBelow (path : List String) : Node → List (List String × String)
  | file text => [(path, text)]
  | folder entries => filesAmong path entries

def filesAmong (path : List String) : List (String × Node) → List (List String × String)
  | [] => []
  | (name, node) :: rest => filesBelow (path ++ [name]) node ++ filesAmong path rest

end

def files (node : Node) : List (List String × String) :=
  (node.filesBelow []).mergeSort (fun a b => pathLe a.1 b.1)

end Node
end Filing
end StoryLoom
