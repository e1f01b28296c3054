import StoryLoom.Pattern.Library
import StoryLoom.Pattern.Machine
import StoryLoom.Pattern.Reader
import StoryLoom.Pattern.Route

/-!
# Compile — from a written pattern to an expression that can be searched for

- `Expr.compile` : the expression of a written pattern
- `exprLibrary`  : the library that reads patterns into expressions and searches along their routes
-/

namespace StoryLoom
namespace Pattern

/-- The expression of a written pattern. It is refused if its automaton takes too much room. -/
def Expr.compile (source : List Char) : Except PatternError Expr :=
  match Expr.read? source with
  | none => .error .malformed
  | some e => if e.fitsMachine then .ok e else .error (.tooLarge machineLimit)

end Pattern

namespace Libraries

scoped instance exprLibrary : PatternLibrary where
  Compiled := Pattern.Expr
  compile := Pattern.Expr.compile
  occursIn := Pattern.Expr.occursIn

end Libraries
end StoryLoom
