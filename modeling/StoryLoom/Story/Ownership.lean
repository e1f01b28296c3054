import StoryLoom.Story.Model
import StoryLoom.Table.Scatter

/-!
# Ownership — owners and parents from the structure

- `childClaims`, `blockClaims`, `variableClaims`, `replyClaims` : who lists whom
- `lastClaim?`    : the last of the claims on an object
- `rebuildOwners` : the story with its links set by these claims

Numbers are taken from the keys of the tables. A component or block that nothing claims keeps the
owner it has; a line that nothing claims has no parent. Where several objects claim one, the last of
them in scattered order has it; the variables of blocks come after all children.
-/

namespace StoryLoom
namespace StoryModel

/-! ## Claims -/

/-- What a component claims: its children, and the condition of a branch. -/
def claims (c : Component) : List ComponentId :=
  c.childIds ++
    (match c.kind with
    | .askIt a => a.condition.toList
    | _ => [])

/-- The components with their numbers, in the order in which their claims are settled. -/
def claimants (m : StoryModel) : List (ComponentId × Component) :=
  Scatter.scatter (fun p => p.1.number) m.components.entries

/-- Claims of components on components, as pairs of the claimed and its owner. -/
def childClaims (m : StoryModel) : List (ComponentId × ComponentId) :=
  m.claimants.flatMap (fun p => (claims p.2).map (·, p.1))

def blockClaims (m : StoryModel) : List (CodeBlockId × ComponentId) :=
  m.claimants.flatMap (fun p =>
    match p.2.kind with
    | .scriptIt s => s.codeBlocks.map (·, p.1)
    | _ => [])

def variableClaims (m : StoryModel) : List (ComponentId × ComponentId) :=
  m.blockClaims.flatMap (fun claim =>
    match m.codeBlock? claim.1 with
    | some b => (b.parameters ++ b.implicits).map (·, claim.2)
    | none => [])

def replyClaims (m : StoryModel) : List (LineId × LineId) :=
  (Scatter.scatter (fun p => p.1.number) m.lines.entries).flatMap
    (fun p => p.2.children.map (·, p.1))

/-- The last claim on an object. -/
def lastClaim? {α β : Type} [DecidableEq α] (claims : List (α × β)) (claimed : α) : Option β :=
  ((claims.filter (fun p => p.1 = claimed)).getLast?).map Prod.snd

/-! ## Links -/

/-- The story with numbers from the keys, and with owners and parents from the claims. -/
def rebuildOwners (m : StoryModel) : StoryModel :=
  let onComponents := m.childClaims ++ m.variableClaims
  let onBlocks := m.blockClaims
  let onLines := m.replyClaims
  { m with
    components := m.components.mapValues fun id c =>
      { c with id := id, owner := (lastClaim? onComponents id).or c.owner }
    codeBlocks := m.codeBlocks.mapValues fun id b =>
      { b with id := id, owner := (lastClaim? onBlocks id).or b.owner }
    lines := m.lines.mapValues fun id l =>
      { l with id := id, parent := lastClaim? onLines id } }

end StoryModel
end StoryLoom
