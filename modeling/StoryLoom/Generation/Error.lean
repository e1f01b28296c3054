import StoryLoom.Naming.Namer
import StoryLoom.Text.Quoted

/-!
# GenerationError — why a template cannot be resolved

- `Element`         : what a context can be made for
- `Problem`         : the causes
- `GenerationError` : a cause with the innermost fragment it arose in
- `message`         : the account of an error
-/

namespace StoryLoom

inductive Element
  | component (id : ComponentId)
  | codeBlock (id : CodeBlockId)
  /-- The value of a variable. -/
  | binding (id : ComponentId)
  | line (id : LineId)
  | text (text : String)
  deriving DecidableEq, Repr

def Element.describe : Element → String
  | .component id => "component " ++ id.describe
  | .codeBlock id => id.describe
  | .binding id => "binding of component " ++ id.describe
  | .line id => "dialogue " ++ id.describe
  | .text t => "text " ++ Text.quoted t

/-- Why a template cannot be resolved. The texts called `context` describe contexts. -/
inductive Problem
  | missing (what : String) (context : String)
  | unsupported (accessor : String) (context : String)
  | unknownSeries (label : String) (context : String)
  | namesExhausted (cause : Namer.Exhausted) (context : Option String)
  | badFilter (pattern : String) (cause : Pattern.PatternError)
  | badLegality (pattern : String) (cause : Pattern.PatternError)
  | noOwner (context : String)
  | unknownFormat (id : String)
  | unknownType (name : String) (context : String)
  | dangling (element : Element)
  /-- Templates call each other deeper than any that come to an end. -/
  | endless
  deriving DecidableEq, Repr

def Problem.message : Problem → String
  | .missing what context => "missing required " ++ what ++ " in " ++ context
  | .unsupported accessor context => "'" ++ accessor ++ "' is not supported by " ++ context
  | .unknownSeries label context => "unknown series source '" ++ label ++ "' in " ++ context
  | .namesExhausted cause context =>
    "no unique legal name for '" ++ cause.base ++ "' in " ++ context.getD "" ++ " after " ++
      toString cause.attempts ++ " attempts"
  | .badFilter pattern cause => "invalid filter pattern '" ++ pattern ++ "': " ++ cause.message
  | .badLegality pattern cause =>
    "invalid legality pattern '" ++ pattern ++ "': " ++ cause.message
  | .noOwner context => context ++ " has no owner"
  | .unknownFormat id => "unknown format '" ++ id ++ "'"
  | .unknownType name context =>
    "type '" ++ name ++ "' has no entry in the dictionary (in " ++ context ++ ")"
  | .dangling element => "dangling reference to " ++ element.describe
  | .endless => "templates call each other without end"

structure GenerationError where
  problem : Problem
  fragment : Option String := none
  deriving DecidableEq, Repr

namespace GenerationError

def message (e : GenerationError) : String :=
  match e.fragment with
  | none => e.problem.message
  | some fragment => e.problem.message ++ " (in " ++ fragment ++ ")"

/-- Note the fragment of an error that has none yet. -/
def inFragment (fragment : String) (e : GenerationError) : GenerationError :=
  { e with fragment := e.fragment.or (some fragment) }

/-- Note the context in which names ran out, if none is noted yet. -/
def inContext (context : String) (e : GenerationError) : GenerationError :=
  match e.problem with
  | .namesExhausted cause none => { e with problem := .namesExhausted cause (some context) }
  | _ => e

def missing (what context : String) : GenerationError :=
  { problem := .missing what context }

def unsupported (accessor context : String) : GenerationError :=
  { problem := .unsupported accessor context }

def dangling (element : Element) : GenerationError :=
  { problem := .dangling element }

def unknownFormat (id : String) : GenerationError :=
  { problem := .unknownFormat id }

end GenerationError
end StoryLoom
