import StoryLoom.Naming.Identity
import StoryLoom.Numeral.Base36
import StoryLoom.Pattern.Legal
import StoryLoom.Text.Blank

/-!
# Namer — unique, legal names for identities

- `Namer`        : the names given so far, and the rules for new ones
- `Exhausted`    : no name was found
- `baseOf`       : the legal text that a name is built on
- `candidate`    : the base, or the base with a number behind it
- `search`       : the first available candidate
- `Giving`       : computations that may give names
- `uniqueName`   : the name of an identity, given on first request
- `assignments`  : the names given so far, sorted

A name once given never changes. An alias given before supplies its name; only a name that was built
counts as taken.
-/

namespace StoryLoom

/-- The names given so far, and the rules for new ones. -/
structure Namer where
  names : Table Identity String := ∅
  taken : List String := []
  aliases : Table AliasKey String := ∅
  reserved : List String
  maxAttempts : Nat

namespace Namer

/-- How many numbers are tried behind a name where nothing else is set. -/
def defaultMaxAttempts : Nat := 10000

/-- The text that a name is built on where an object has no usable one. -/
def unnamed : List Char := "unnamed".toList

def start (reserved : List String) (maxAttempts : Nat) : Namer :=
  { reserved := reserved, maxAttempts := maxAttempts }

/-- No name was found: what it was to be built on, and how many numbers were tried. -/
structure Exhausted where
  base : String
  attempts : Nat
  deriving DecidableEq, Repr

def nameOf? (n : Namer) (identity : Identity) : Option String :=
  n.names.get? identity

def isAvailable (n : Namer) (accepts : List Char → Bool) (name : List Char) : Bool :=
  !name.isEmpty && accepts name && !n.taken.contains (String.ofList name) &&
    !n.reserved.contains (String.ofList name)

def baseOf (accepts : List Char → Bool) (text : String) : List Char :=
  let own := Pattern.legalise accepts (Text.trimList text.toList)
  if own.isEmpty then Pattern.legalise accepts unnamed else own

/-- The base with a number behind it, made legal. -/
def candidate (accepts : List Char → Bool) (base : List Char) (number : Nat) : List Char :=
  Pattern.legalise accepts (base ++ '_' :: Base36.digits number)

/-- The first available text among `current` and the candidates from `number` on, of which `left` may
still be tried. The check may have an effect of its own. -/
def searchBy {m : Type → Type} [Monad m] (check : List Char → m Bool)
    (accepts : List Char → Bool) (base : List Char) :
    Nat → Nat → List Char → m (Except Exhausted (List Char))
  | left, number, current => do
    if ← check current then return .ok current
    else
      match left with
      | 0 => return .error ⟨String.ofList base, number⟩
      | left + 1 => searchBy check accepts base left (number + 1) (candidate accepts base number)

/-- The search for an available text, with no other effect. -/
def search (n : Namer) (accepts : List Char → Bool) (base : List Char) (left number : Nat)
    (current : List Char) : Except Exhausted (List Char) :=
  Id.run (searchBy (fun text => pure (n.isAvailable accepts text)) accepts base left number current)

def build (n : Namer) (accepts : List Char → Bool) (text : String) :
    Except Exhausted (List Char) :=
  let base := baseOf accepts text
  if base.isEmpty then .error ⟨text, 0⟩
  else n.search accepts base n.maxAttempts 0 base

def aliasName? (n : Namer) (key : Option AliasKey) : Option String :=
  key.bind n.aliases.get?

/-! ## Giving names -/

/-- A computation that may give names. What it gave before a failure stays. -/
abbrev Giving := EStateM Exhausted Namer

def buildName (text : String) (accepts : List Char → Bool) : Giving String := do
  match (← get).build accepts text with
  | .ok chars => return String.ofList chars
  | .error e => throw e

def take (name : String) : Giving Unit :=
  modify fun n => { n with taken := name :: n.taken }

def assign (identity : Identity) (name : String) : Giving Unit :=
  modify fun n => { n with names := n.names.insert identity name }

/-- Let an alias supply a name from now on. -/
def share (key : AliasKey) (name : String) : Giving Unit :=
  modify fun n => { n with aliases := n.aliases.insert key name }

/-- The name of an identity, given on first request: that of its alias, or a new one. -/
def uniqueName (identity : Identity) (text : String) (key : Option AliasKey)
    (accepts : List Char → Bool) : Giving String := do
  match (← get).nameOf? identity with
  | some name => return name
  | none =>
    match (← get).aliasName? key with
    | some name =>
      assign identity name
      return name
    | none =>
      let name ← buildName text accepts
      take name
      assign identity name
      key.forM fun k => share k name
      return name

/-! ## Listing -/

def listedBefore (a b : Identity × String) : Bool :=
  if a.2 = b.2 then
    a.1.rank.1 < b.1.rank.1 || (a.1.rank.1 = b.1.rank.1 && a.1.rank.2 ≤ b.1.rank.2)
  else decide (a.2 ≤ b.2)

/-- All assignments, sorted by name. Those of one name come in the order of their identities' places, so that
the list depends on the assignments alone; the table that holds them has an order of its own. -/
def assignments (n : Namer) : List (Identity × String) :=
  n.names.entries.mergeSort listedBefore

end Namer
end StoryLoom
