import StoryLoom.Generation.Resolve

/-!
# Pass — resolving templates with one table of names

- `NamingRules`   : how new names are made
- `Pass`          : a setting with the names given so far
- `Pass.resolve`  : the text of a template against the whole script
- `assignedNames` : the names given so far
-/

namespace StoryLoom

variable [PatternLibrary]

/-- How new names are made. A pattern here replaces that of the dictionary. -/
structure NamingRules where
  maxAttempts : Nat := Namer.defaultMaxAttempts
  pattern : Option String := none
  deriving DecidableEq, Repr

structure Pass where
  setting : Setting
  namer : Namer

namespace Pass

def start (model : StoryModel) (dictionary : Dictionary) (location : Location)
    (rules : NamingRules) : Pass where
  setting :=
    { model := model
      dictionary := dictionary
      location := location
      namingPattern :=
        (rules.pattern.or dictionary.namingPattern).getD LegalPattern.defaultNaming }
  namer := Namer.start dictionary.reservedWords rules.maxAttempts

/-- The result of a computation, and the pass with the names it gave. -/
def run {α : Type} (p : Pass) (x : Naming α) : Except GenerationError α × Pass :=
  match x p.namer with
  | .ok a namer => (.ok a, { p with namer := namer })
  | .error e namer => (.error e, { p with namer := namer })

/-- A template resolved against the whole script. -/
def resolveRoot (s : Setting) (template : Template) : Naming String := do
  let c ← Naming.ofExcept (Context.root s)
  StoryLoom.resolve s template c

def resolve (p : Pass) (template : Template) : Except GenerationError String × Pass :=
  p.run (resolveRoot p.setting template)

def assignedNames (p : Pass) : List (Identity × String) :=
  p.namer.assignments

def nameOf? (p : Pass) (identity : Identity) : Option String :=
  p.namer.nameOf? identity

end Pass
end StoryLoom
