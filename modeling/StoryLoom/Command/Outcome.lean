/-!
# Outcome — what a command leaves behind

- `Outcome`                 : exit code, output and error output
- `Outcome.say`, `Outcome.warn` : a line of output, a line of error output
- `Outcome.andThen`         : one outcome after another
-/

namespace StoryLoom
namespace Command

/-- What a command leaves behind: its exit code and what it wrote. -/
structure Outcome where
  code : Nat := 0
  out : String := ""
  err : String := ""
  deriving DecidableEq, Repr

namespace Outcome

def say (line : String) : Outcome :=
  { out := line ++ "\n" }

def warn (line : String) : Outcome :=
  { err := line ++ "\n" }

/-- What two steps write one after the other. The larger exit code stays. -/
def andThen (a b : Outcome) : Outcome :=
  { code := max a.code b.code, out := a.out ++ b.out, err := a.err ++ b.err }

def all (steps : List Outcome) : Outcome :=
  steps.foldl andThen {}

def failed (o : Outcome) : Outcome :=
  { o with code := 1 }

end Outcome
end Command
end StoryLoom
