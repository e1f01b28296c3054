/-!
# Ranges — sorted tables of code points

- `Ranges`     : ranges `(lo, hi)`, both ends included, in ascending order
- `inRanges`   : membership
- `expandRuns` : the ranges of runs `(lo, hi, step)`: `lo`, `lo + step`, … up to `hi`

The search for a number ends at the first range that starts above it.
-/

namespace StoryLoom
namespace Unicode

abbrev Ranges := List (Nat × Nat)

def inRanges : Ranges → Nat → Bool
  | [], _ => false
  | (lo, hi) :: rest, n =>
    if n < lo then false
    else if n ≤ hi then true
    else inRanges rest n

/-- The ranges of a run. A run without gaps is one range. -/
def expandRun (lo hi step : Nat) : Ranges :=
  if step = 1 then [(lo, hi)]
  else (List.range ((hi - lo) / step + 1)).map fun i => (lo + step * i, lo + step * i)

/-- The ranges of a table of runs. -/
def expandRuns (runs : List (Nat × Nat × Nat)) : Ranges :=
  runs.flatMap fun (lo, hi, step) => expandRun lo hi step

end Unicode
end StoryLoom
