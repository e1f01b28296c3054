import StoryLoom.Story.Traversal
import StoryLoom.Text.Caseless

/-!
# Place — where the code of a story belongs

- `parametersOf`    : the parameters of a script
- `subjectOf?`      : the parameter that a block names as its subject
- `bindingText?`    : the text of what a binding points at
- `locationOf`      : the location of a block
- `appliesAt`       : whether a block adds code at a location
- `scriptLocations` : the locations of all causes, each once
-/

namespace StoryLoom
namespace StoryModel

def blocksOf (m : StoryModel) (s : ScriptIt) : List CodeBlock :=
  s.codeBlocks.filterMap m.codeBlock?

/-- The parameters of the code blocks of a script, each once; none for other components. -/
def parametersOf (m : StoryModel) (c : Component) : List ComponentId :=
  match c.script? with
  | some s => ((m.blocksOf s).flatMap CodeBlock.parameters).eraseDups
  | none => []

/-- The first of some components whose text is a given one, up to case. -/
def findNamed? (m : StoryModel) (candidates : List ComponentId) (text : String) :
    Option ComponentId :=
  candidates.find? (fun id => (m.component? id).any (fun c => Text.sameLetters c.text text))

/-- The parameters that a block can name: its own, then those of its script. -/
def argumentsOf (m : StoryModel) (block : CodeBlock) : List ComponentId :=
  block.parameters ++ ((m.blockOwner? block).elim [] m.parametersOf)

/-- The parameter that a block names as its subject. -/
def subjectOf? (m : StoryModel) (block : CodeBlock) : Option ComponentId :=
  block.subject.bind (m.findNamed? (m.argumentsOf block))

def bindingText? (m : StoryModel) : Binding → Option String
  | .unbound => none
  | .resource r => some r.codeText
  | .reference id => (m.component? id).map Component.text
  | .function id => (m.component? id).map Component.text
  | .storyPoint id => (m.component? id).map Component.text
  | .uninitialized id => (m.component? id).map Component.text
  | .dialogue id => (m.line? id).map DialogueLine.text

/-- The location of a block: its slot, with the text of what its subject is bound to. -/
def locationOf (m : StoryModel) (block : CodeBlock) : Location where
  slot := block.slot
  subject := (m.subjectOf? block).bind fun id =>
    (m.knowIt? id).bind fun k => m.bindingText? k.binding

/-- Whether a block adds code at a location. A block without a slot belongs everywhere. -/
def appliesAt (m : StoryModel) (block : CodeBlock) (location : Location) : Bool :=
  block.slot.isEmpty || m.locationOf block = location

def mainBlock? (m : StoryModel) (s : ScriptIt) : Option CodeBlock :=
  s.mainBlock?.bind m.codeBlock?

def causes (m : StoryModel) : List Component :=
  (m.allComponents.filterMap m.component?).filter Component.isCause

/-- The location of the main block of a component, if it is a script with one. -/
def mainLocation? (m : StoryModel) (c : Component) : Option Location :=
  (c.script?.bind m.mainBlock?).map m.locationOf

/-- The locations of the main blocks of all causes, each once, in story order. -/
def scriptLocations (m : StoryModel) : List Location :=
  (m.causes.filterMap m.mainLocation?).eraseDups

end StoryModel
end StoryLoom
