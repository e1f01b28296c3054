import StoryLoom.Text.Caseless
import StoryLoom.Text.Blank

/-!
# Vocabulary — the labels that templates may use

- `DataKey`      : values for references
- `ScopeKey`     : objects for scopes
- `SeriesKey`    : collections for series
- `ConditionKey` : facts for conditionals
- `Condition`    : a fact, perhaps negated

Each kind of key has a `label` to write and a `parse?` to read.
-/

namespace StoryLoom

/-- The values that a reference can fetch. -/
inductive DataKey
  | name
  | note
  | type
  | code
  | value
  | formattedValue
  | condition
  | includeText
  | templateId
  | uniqueId
  | fanIn
  | index
  | controlItFormat
  | subject
  | slot
  | currentStoryPoint
  | declaration
  | definition
  | probabilityCount
  | taskProbabilityLowerBound
  | taskProbabilityUpperBound
  | text
  | speaker
  | enabled
  deriving DecidableEq, Repr

namespace DataKey

def all : List DataKey :=
  [.name, .note, .type, .code, .value, .formattedValue, .condition, .includeText, .templateId,
   .uniqueId, .fanIn, .index, .controlItFormat, .subject, .slot, .currentStoryPoint,
   .declaration, .definition, .probabilityCount, .taskProbabilityLowerBound,
   .taskProbabilityUpperBound, .text, .speaker, .enabled]

def label : DataKey → String
  | name => "name"
  | note => "note"
  | type => "type"
  | code => "code"
  | value => "value"
  | formattedValue => "formattedValue"
  | condition => "condition"
  | includeText => "include"
  | templateId => "templateId"
  | uniqueId => "uniqueId"
  | fanIn => "fanIn"
  | index => "index"
  | controlItFormat => "controlItFormat"
  | subject => "subject"
  | slot => "slot"
  | currentStoryPoint => "currentStoryPoint"
  | declaration => "declaration"
  | definition => "definition"
  | probabilityCount => "probabilityCount"
  | taskProbabilityLowerBound => "taskProbabilityLowerBound"
  | taskProbabilityUpperBound => "taskProbabilityUpperBound"
  | text => "text"
  | speaker => "speaker"
  | enabled => "enabled"

def ofLower? : String → Option DataKey
  | "name" => some .name
  | "note" | "displaytext" => some .note
  | "type" => some .type
  | "code" => some .code
  | "value" => some .value
  | "formattedvalue" => some .formattedValue
  | "condition" => some .condition
  | "include" => some .includeText
  | "templateid" => some .templateId
  | "uniqueid" => some .uniqueId
  | "fanin" => some .fanIn
  | "index" => some .index
  | "controlitformat" | "controlformat" => some .controlItFormat
  | "subject" => some .subject
  | "slot" => some .slot
  | "currentstorypoint" => some .currentStoryPoint
  | "declaration" => some .declaration
  | "definition" => some .definition
  | "probabilitycount" => some .probabilityCount
  | "taskprobabilitylowerbound" => some .taskProbabilityLowerBound
  | "taskprobabilityupperbound" => some .taskProbabilityUpperBound
  | "text" => some .text
  | "speaker" => some .speaker
  | "enabled" => some .enabled
  | _ => none

/-- The key of a label. Case and blanks around the label do not matter. -/
def parse? (text : String) : Option DataKey :=
  ofLower? (Text.lower (Text.trim text))

end DataKey

/-- The objects that a scope can turn to. -/
inductive ScopeKey
  | owner
  | start
  | storyPoint
  | subject
  | argument
  | slotParameter
  | mainCodeBlock
  | cause
  | ifChild
  | elseChild
  | condition
  | binding
  | activeChild
  | inactiveChild
  | alwaysChild
  | initiator
  | responder
  | behaviour
  | dialogue
  | audio
  | image
  deriving DecidableEq, Repr

namespace ScopeKey

def all : List ScopeKey :=
  [.owner, .start, .storyPoint, .subject, .argument, .slotParameter, .mainCodeBlock, .cause,
   .ifChild, .elseChild, .condition, .binding, .activeChild, .inactiveChild, .alwaysChild,
   .initiator, .responder, .behaviour, .dialogue, .audio, .image]

def label : ScopeKey → String
  | owner => "owner"
  | start => "start"
  | storyPoint => "storyPoint"
  | subject => "subject"
  | argument => "argument"
  | slotParameter => "slotParameter"
  | mainCodeBlock => "mainCodeBlock"
  | cause => "cause"
  | ifChild => "ifChild"
  | elseChild => "elseChild"
  | condition => "condition"
  | binding => "binding"
  | activeChild => "activeChild"
  | inactiveChild => "inactiveChild"
  | alwaysChild => "alwaysChild"
  | initiator => "initiator"
  | responder => "responder"
  | behaviour => "behaviour"
  | dialogue => "dialogue"
  | audio => "audio"
  | image => "image"

def ofLower? : String → Option ScopeKey
  | "owner" => some .owner
  | "start" => some .start
  | "storypoint" => some .storyPoint
  | "subject" => some .subject
  | "argument" => some .argument
  | "slotparameter" => some .slotParameter
  | "maincodeblock" => some .mainCodeBlock
  | "cause" => some .cause
  | "ifchild" => some .ifChild
  | "elsechild" => some .elseChild
  | "condition" => some .condition
  | "binding" => some .binding
  | "activechild" => some .activeChild
  | "inactivechild" => some .inactiveChild
  | "alwayschild" => some .alwaysChild
  | "initiator" => some .initiator
  | "responder" => some .responder
  | "behaviour" | "behavior" => some .behaviour
  | "dialogue" => some .dialogue
  | "audio" => some .audio
  | "image" => some .image
  | _ => none

/-- The key of a label. Case and blanks around the label do not matter. -/
def parse? (text : String) : Option ScopeKey :=
  ofLower? (Text.lower (Text.trim text))

/-- Whether a key picks one of several objects by name. -/
def takesName : ScopeKey → Bool
  | argument => true
  | slotParameter => true
  | _ => false

end ScopeKey

/-- The collections that a series can walk. -/
inductive SeriesKey
  | includes
  | codeBlocks
  | scriptIts
  | causes
  | effects
  | parameters
  | parametersWithSlot
  | slotParameters
  | allVariables
  | implicits
  | children
  | arguments
  | storyPoints
  | orderedStoryPoints
  | parentNodes
  | childrenNodes
  | identicalCauses
  | childLines
  | orderedDialogueLines
  deriving DecidableEq, Repr

namespace SeriesKey

def all : List SeriesKey :=
  [.includes, .codeBlocks, .scriptIts, .causes, .effects, .parameters, .parametersWithSlot,
   .slotParameters, .allVariables, .implicits, .children, .arguments, .storyPoints,
   .orderedStoryPoints, .parentNodes, .childrenNodes, .identicalCauses, .childLines,
   .orderedDialogueLines]

def label : SeriesKey → String
  | includes => "includes"
  | codeBlocks => "codeBlocks"
  | scriptIts => "scriptIts"
  | causes => "causes"
  | effects => "effects"
  | parameters => "parameters"
  | parametersWithSlot => "parametersWithSlot"
  | slotParameters => "slotParameters"
  | allVariables => "variables"
  | implicits => "implicits"
  | children => "children"
  | arguments => "arguments"
  | storyPoints => "storyPoints"
  | orderedStoryPoints => "orderedStoryPoints"
  | parentNodes => "parentNodes"
  | childrenNodes => "childrenNodes"
  | identicalCauses => "identicalCauses"
  | childLines => "childLines"
  | orderedDialogueLines => "orderedDialogueLines"

def ofLower? : String → Option SeriesKey
  | "includes" => some .includes
  | "codeblocks" => some .codeBlocks
  | "scriptits" => some .scriptIts
  | "causes" => some .causes
  | "effects" => some .effects
  | "parameters" => some .parameters
  | "parameterswithslot" => some .parametersWithSlot
  | "slotparameters" => some .slotParameters
  | "variables" => some .allVariables
  | "implicits" => some .implicits
  | "children" => some .children
  | "arguments" => some .arguments
  | "storypoints" => some .storyPoints
  | "orderedstorypoints" => some .orderedStoryPoints
  | "parentnodes" => some .parentNodes
  | "childrennodes" => some .childrenNodes
  | "identicalcauses" => some .identicalCauses
  | "childlines" => some .childLines
  | "ordereddialoguelines" => some .orderedDialogueLines
  | _ => none

/-- The key of a label. Case and blanks around the label do not matter. -/
def parse? (text : String) : Option SeriesKey :=
  ofLower? (Text.lower (Text.trim text))

end SeriesKey

/-- The facts that a conditional can test. -/
inductive ConditionKey
  | isLastTask
  | hasMultipleChildren
  deriving DecidableEq, Repr

namespace ConditionKey

def all : List ConditionKey :=
  [.isLastTask, .hasMultipleChildren]

def label : ConditionKey → String
  | isLastTask => "isLastTask"
  | hasMultipleChildren => "hasMultipleChildren"

def ofLower? : String → Option ConditionKey
  | "islasttask" => some .isLastTask
  | "hasmultiplechildren" => some .hasMultipleChildren
  | _ => none

/-- The key of a label. Case and blanks around the label do not matter. -/
def parse? (text : String) : Option ConditionKey :=
  ofLower? (Text.lower (Text.trim text))

end ConditionKey

/-- A condition: a fact of the context, or its negation. -/
structure Condition where
  key : ConditionKey
  negated : Bool
  deriving DecidableEq, Repr

namespace Condition

/-- The condition of a label; a leading `!` negates it. -/
def parse? (text : String) : Option Condition :=
  match (Text.trim text).toList with
  | '!' :: rest => (ConditionKey.parse? (String.ofList rest)).map (⟨·, true⟩)
  | label => (ConditionKey.parse? (String.ofList label)).map (⟨·, false⟩)

def holds (c : Condition) (answer : Bool) : Bool :=
  answer != c.negated

end Condition

end StoryLoom
