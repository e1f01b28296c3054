import StoryLoom.Story.OwnerChain
import StoryLoom.Table.Scatter
import StoryLoom.Text.Caseless

/-!
# Identity — what can have a name, and what shares one

- `Identity`     : a component, a code block or a dialogue line
- `Identity.rank`: the place of an identity among all
- `AliasKey`     : a name shared by several identities
- `AliasKey.of?` : the alias that a component is named under
-/

namespace StoryLoom

inductive Identity
  | component (id : ComponentId)
  | codeBlock (id : CodeBlockId)
  | line (id : LineId)
  deriving DecidableEq, Repr

/-- The place of an identity: components, code blocks, lines, each by number. -/
def Identity.rank : Identity → Nat × Nat
  | .component id => (0, id.number)
  | .codeBlock id => (1, id.number)
  | .line id => (2, id.number)

/-- A name that several identities share. -/
inductive AliasKey
  /-- An implicit variable of library code: the same in every copy of the code. -/
  | implicit (source : String) (name : String)
  /-- A role variable of a shared task: the same for both parties. -/
  | role (task : ComponentId) (role : String)
  deriving DecidableEq, Repr

namespace AliasKey

/-- The library entry of a block with a source that has the variable as an implicit one; of several,
the first in scattered order. -/
def implicitSource? (m : StoryModel) (id : ComponentId) : Option String :=
  (Scatter.scatter (fun p => p.1.number) m.codeBlocks.entries).findSome?
    (fun p => if p.2.implicits.contains id then p.2.source else none)

def isSharedTask (c : Component) : Bool :=
  c.task?.any (fun t => t.roles.isSome)

/-- The alias of a role that has the text as its name, up to case; the initiator comes first. -/
def ofRoles? (task : ComponentId) (roles : TaskRoles) (text : String) : Option AliasKey :=
  ([roles.initiator, roles.responder].find? (Text.sameLetters · text)).map
    (fun r => .role task (Text.lower r))

/-- The alias of a role in the nearest shared task around a component. -/
def roleOf? (m : StoryModel) (id : ComponentId) (text : String) : Option AliasKey :=
  (m.enclosing? id isSharedTask).bind fun c =>
    c.task?.bind fun t => t.roles.bind fun roles => ofRoles? c.id roles text

/-- The alias that a component is named under. Only variables have one. -/
def of? (m : StoryModel) (id : ComponentId) : Option AliasKey :=
  (m.component? id).bind fun c =>
    c.knowIt?.bind fun _ =>
      match implicitSource? m id with
      | some source => some (.implicit source c.text)
      | none => roleOf? m id c.text

end AliasKey
end StoryLoom
