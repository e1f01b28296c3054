import StoryLoom.Naming.Namer

/-!
# Giving — what a request for a name does to the tables

- `record`                : the tables after a name was built
- `search_zero`, `search_succ` : one step of the search for a new name
- `uniqueName_of_named`   : the request of an identity that has a name
- `uniqueName_of_unnamed` : the request of one that has none, which its alias answers or a new name
- `uniqueName_of_build_ok`, `uniqueName_of_build_error` : the two ends where no alias answers

All changes come behind the one step that can fail, so a request that fails has changed nothing.
-/

namespace StoryLoom
namespace Namer

/-- The tables after a name was built for an identity. -/
def record (n : Namer) (identity : Identity) (key : Option AliasKey) (name : String) : Namer :=
  { n with
    names := n.names.insert identity name
    taken := name :: n.taken
    aliases := key.elim n.aliases (fun k => n.aliases.insert k name) }

/-! ## Searching -/

section Search

variable {n : Namer} {accepts : List Char → Bool} {base current : List Char} {number : Nat}

/-- With no number left, a search has only the text at hand. -/
theorem search_zero : n.search accepts base 0 number current =
    if n.isAvailable accepts current then .ok current
    else .error ⟨String.ofList base, number⟩ := by
  rw [search, searchBy]
  cases n.isAvailable accepts current <;> rfl

/-- With a number left, a search goes on to the candidate with that number. -/
theorem search_succ (left : Nat) : n.search accepts base (left + 1) number current =
    if n.isAvailable accepts current then .ok current
    else n.search accepts base left (number + 1) (candidate accepts base number) := by
  rw [search, searchBy]
  cases n.isAvailable accepts current <;> rfl

end Search

/-! ## Steps -/

section Steps

variable {α β : Type} {n next : Namer} {x : Giving α} {f : α → Giving β} {a : α} {e : Exhausted}
  {text : String} {accepts : List Char → Bool} {chars : List Char}

theorem bind_of_ok (h : x n = .ok a next) : (x >>= f) n = f a next := by
  simp only [bind, EStateM.bind, h]

theorem bind_of_error (h : x n = .error e next) : (x >>= f) n = .error e next := by
  simp only [bind, EStateM.bind, h]

theorem get_eq (n : Namer) : (get : Giving Namer) n = .ok n n :=
  rfl

theorem buildName_of_ok (built : n.build accepts text = .ok chars) :
    buildName text accepts n = .ok (String.ofList chars) n := by
  rw [buildName, bind_of_ok (get_eq n), built]
  rfl

/-- A search in vain leaves the tables as they are. -/
theorem buildName_of_error (refused : n.build accepts text = .error e) :
    buildName text accepts n = .error e n := by
  rw [buildName, bind_of_ok (get_eq n), refused]
  rfl

/-- The steps behind a name that was built fill the three tables. -/
theorem recorded (n : Namer) (identity : Identity) (key : Option AliasKey) (name : String) :
    (do take name; assign identity name; key.forM fun k => share k name; return name : Giving String) n =
      .ok name (n.record identity key name) := by
  cases key <;> rfl

end Steps

/-! ## Requests -/

section Requests

variable {n : Namer} {identity : Identity} {text name : String} {key : Option AliasKey}
  {accepts : List Char → Bool}

/-- A name given before is answered whatever else the request says. -/
theorem uniqueName_of_named (named : n.nameOf? identity = some name) (text : String)
    (key : Option AliasKey) (accepts : List Char → Bool) :
    uniqueName identity text key accepts n = .ok name n := by
  rw [uniqueName, bind_of_ok (get_eq n), named]
  rfl

/-- An identity without a name gets that of its alias, or a new one if there is one. -/
theorem uniqueName_of_unnamed (unnamed : n.nameOf? identity = none) :
    uniqueName identity text key accepts n =
      match n.aliasName? key with
      | some name => .ok name { n with names := n.names.insert identity name }
      | none =>
        match n.build accepts text with
        | .ok chars => .ok (String.ofList chars) (n.record identity key (String.ofList chars))
        | .error e => .error e n := by
  rw [uniqueName, bind_of_ok (get_eq n), unnamed]
  dsimp only
  rw [bind_of_ok (get_eq n)]
  cases n.aliasName? key with
  | some name => rfl
  | none =>
    cases built : n.build accepts text with
    | ok chars =>
      dsimp only
      rw [bind_of_ok (buildName_of_ok built)]
      exact recorded n identity key _
    | error e => exact bind_of_error (buildName_of_error built)

/-- A new name is noted for its identity, and for its key if there is one. -/
theorem uniqueName_of_build_ok {chars : List Char} (unnamed : n.nameOf? identity = none)
    (unheld : n.aliasName? key = none) (built : n.build accepts text = .ok chars) :
    uniqueName identity text key accepts n =
      .ok (String.ofList chars) (n.record identity key (String.ofList chars)) := by
  rw [uniqueName_of_unnamed unnamed, unheld, built]

/-- A request that fails notes nothing. -/
theorem uniqueName_of_build_error {e : Exhausted} (unnamed : n.nameOf? identity = none)
    (unheld : n.aliasName? key = none) (refused : n.build accepts text = .error e) :
    uniqueName identity text key accepts n = .error e n := by
  rw [uniqueName_of_unnamed unnamed, unheld, refused]

end Requests

end Namer
end StoryLoom
