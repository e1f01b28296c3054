import Std.Data.HashMap
import StoryLoom.Pattern.Normal
import StoryLoom.Text.Utf8

/-!
# Machine — how large the automaton of an expression is

- `Block`       : the states of a normal form, to be laid out one after the other
- `Extent`      : how many states are laid out, and how many bytes they take
- `Block.lay`   : laying out a block
- `fitsMachine` : whether the automata of both directions stay within the limit

An automaton reads the bytes of a text. It takes 32 bytes for each state, 8 for each range that leads from
a state with a table and 4 for each branch of a junction. Each copy that a counted repetition makes is
laid out anew. States for the bytes of a character are shared where the same ones are found again under
their hash in a cache of limited size, the keys of which hold the numbers of states; so the extent of a
set can differ from copy to copy.
-/

namespace StoryLoom
namespace Pattern

open Text.Utf8 (ByteRange)

/-- The largest number of bytes that an automaton may take. -/
def machineLimit : Nat := 10485760

structure Extent where
  states : Nat
  bytes : Nat

/-- A step of laying out: it fails beyond the limit. -/
abbrev Lay := StateT Extent Option

namespace Lay

/-- Lay out so many states that hold so many bytes beyond their own; the number of the first. -/
def states (count extra : Nat) : Lay Nat := fun e =>
  let bytes := e.bytes + 32 * count + extra
  if bytes ≤ machineLimit then some (e.states, ⟨e.states + count, bytes⟩) else none

def branches (count : Nat) : Lay Unit := do
  let _ ← states 0 (4 * count)

/-- The number of branches of a link that leads on from a junction or from a plain state. -/
def link (junction : Bool) : Nat :=
  if junction then 1 else 0

def times (step : Bool → Lay Bool) : Nat → Bool → Lay Bool
  | 0, open_ => pure open_
  | n + 1, open_ => do times step n (← step open_)

end Lay

/-! ## Characters of several bytes -/

structure Cache (α : Type) where
  places : Nat
  entries : Std.HashMap Nat (α × Nat)

namespace Cache

def seed : UInt64 := 14695981039346656037

/-- The hash of a list of numbers with one more. -/
def mix (h : UInt64) (n : Nat) : UInt64 :=
  (h ^^^ n.toUInt64) * 1099511628211

def place {α : Type} (c : Cache α) (numbers : List Nat) : Nat :=
  (numbers.foldl mix seed).toNat % c.places

/-- The number under a key, if its place holds this key. -/
def find? {α : Type} [BEq α] (c : Cache α) (place : Nat) (key : α) : Option Nat :=
  match c.entries[place]? with
  | some (k, n) => if k == key then some n else none
  | none => none

def put {α : Type} (c : Cache α) (place : Nat) (key : α) (n : Nat) : Cache α :=
  { c with entries := c.entries.insert place (key, n) }

end Cache

abbrev Edge := ByteRange × Nat

abbrev CachedLay (κ : Type) := StateT (Cache κ) Lay

/-- The number of a state under a key; it is laid out, with so many extra bytes, unless it is found. -/
def sharedState {κ : Type} [BEq κ] (key : κ) (numbers : List Nat) (extra : Nat) : CachedLay κ Nat := do
  let cache ← get
  let place := cache.place numbers
  match cache.find? place key with
  | some n => return n
  | none =>
    let n ← Lay.states 1 extra
    set (cache.put place key n)
    return n

def groupByHead : List (List ByteRange) → List (ByteRange × List (List ByteRange))
  | [] => []
  | [] :: rest => groupByHead rest
  | (r :: path) :: rest =>
    match groupByHead rest with
    | (s, paths) :: groups =>
      if r == s then (s, path :: paths) :: groups else (r, [path]) :: (s, paths) :: groups
    | [] => [(r, [path])]

/-- The state from which paths of at most so many ranges lead to a target, after the states on the way. -/
def layPaths (target : Nat) : Nat → List (List ByteRange) → CachedLay (List Edge) Nat
  | 0, _ => return target
  | depth + 1, paths => do
    let edges ← (groupByHead paths).mapM fun (r, rest) => do
      let next ← if rest.all List.isEmpty then pure target else layPaths target depth rest
      return (r, next)
    sharedState edges (edges.flatMap fun e => [e.1.1, e.1.2, e.2]) (8 * edges.length)

/-- The states of a path, each of which leads to the one before it; the number of the last. -/
def layBackwards : List ByteRange → Nat → CachedLay Edge Nat
  | [], next => return next
  | r :: rest, next => do
    layBackwards rest (← sharedState (r, next) [next, r.1, r.2] 0)

/-- The states of a set of characters of several bytes. Read forwards, its paths share their ends; read
backwards, a junction leads into each of them. -/
def laySet (backwards : Bool) (paths : List (List ByteRange)) : Lay Unit := do
  if backwards then
    let _ ← Lay.states 1 0
    let target ← Lay.states 1 0
    let _ ← (paths.forM fun path => do
      let _ ← layBackwards path target
      Lay.branches 1).run ⟨1000, ∅⟩
  else
    let target ← Lay.states 1 0
    let _ ← (layPaths target 4 paths).run ⟨10000, ∅⟩

/-! ## Texts as alternatives -/

/-- Texts cut at the empty ones: those before the first, those between it and the next, and so on. -/
def cutAtEmpty : List (List Nat) → List (List (List Nat))
  | [] => [[]]
  | [] :: rest => [] :: cutAtEmpty rest
  | word :: rest =>
    match cutAtEmpty rest with
    | chunk :: later => (word :: chunk) :: later
    | [] => [[word]]

/-- The chunks of the texts that lead on from a node. Empty texts in front count once. -/
def chunks : List (List Nat) → List (List (List Nat))
  | [] :: rest => [] :: cutAtEmpty (rest.dropWhile List.isEmpty)
  | words => cutAtEmpty words

def tails (words : List (List Nat)) : List (List (List Nat)) :=
  let heads := (words.filterMap List.head?).eraseDups
  heads.map fun b => (words.filter fun w => w.head? == some b).map List.tail

/-- The states of the tree of texts that are at most so long, and their extra bytes: each node has a
junction with a branch for each chunk and for the end after each chunk but the last. -/
def treeExtent : Nat → List (List Nat) → Nat × Nat
  | 0, _ => (0, 0)
  | depth + 1, words =>
    let parts := (chunks words).map tails
    let inner := parts.flatten.filter fun words => words.any fun w => !w.isEmpty
    let below := inner.map (treeExtent depth)
    let tables := (parts.map List.length).filter (0 < ·)
    let extra := (tables.filter (1 < ·)).foldl (fun sum n => sum + 8 * n) 0
    let branches := tables.length + (parts.length - 1)
    below.foldl (fun sum e => (sum.1 + e.1, sum.2 + e.2)) (tables.length + 1, extra + 4 * branches)

/-! ## Blocks -/

/-- The states of a normal form in one direction of reading. -/
inductive Block
  /-- So many plain states with so many extra bytes. -/
  | plain (count extra : Nat)
  /-- The states of characters of several bytes. -/
  | set (backwards : Bool) (paths : List (List ByteRange))
  /-- A block between two marks. -/
  | marked (b : Block)
  | seq (bs : List Block)
  | alt (bs : List Block)
  /-- A repetition, and whether what is repeated is never empty. -/
  | repeated (least : Nat) (most : Option Nat) (solid : Bool) (b : Block)

namespace Block

def textBytes (backwards : Bool) (cs : List Char) : List Nat :=
  let bytes := cs.flatMap fun c => Text.Utf8.encode c.toNat
  if backwards then bytes.reverse else bytes

def texts? (es : List Normal) : Option (List (List Char)) :=
  es.mapM fun
    | .text cs => some cs
    | _ => none

mutual

/-- The states of a normal form. Only those read forwards mark groups. -/
def ofNormal (backwards : Bool) : Normal → Block
  | .blank => .plain 1 0
  | .text cs => .plain (textBytes backwards cs).length 0
  | .chars k =>
    if k.isAscii then .plain 2 (8 * k.ranges.length)
    else .set backwards (k.ranges.flatMap fun r => Text.Utf8.paths r.1 r.2)
  | .assertion _ => .plain 1 0
  | .seq ps =>
    let bs := ofNormals backwards ps
    .seq (if backwards then bs.reverse else bs)
  | .alt ps =>
    match texts? ps with
    | some texts =>
      let words := texts.map (textBytes backwards)
      let (count, extra) := treeExtent ((words.map List.length).foldl max 0 + 1) words
      .plain (count + 1) extra
    | none => .alt (ofNormals backwards ps)
  | .repeated least most _ e =>
    .repeated least most (e.minLength?.any (0 < ·)) (ofNormal backwards e)
  | .group _ e => if backwards then ofNormal backwards e else .marked (ofNormal backwards e)

def ofNormals (backwards : Bool) : List Normal → List Block
  | [] => []
  | e :: rest => ofNormal backwards e :: ofNormals backwards rest

end

def layTimes (lay : Lay Bool) (count : Nat) : Lay Bool :=
  match count with
  | 0 => do
    let _ ← Lay.states 1 0
    return false
  | n + 1 => do
    let first ← lay
    Lay.times (fun joint => do
      let next ← lay
      Lay.branches (Lay.link joint)
      return next) n first

/-- A repetition laid out; whether it ends in a junction. -/
def layRepeated (lay : Lay Bool) (solid : Bool) (least : Nat) (most : Option Nat) : Lay Bool :=
  match least, most with
  | 0, some 1 => do
    let _ ← Lay.states 1 0
    let joint ← lay
    let _ ← Lay.states 1 0
    Lay.branches (2 + Lay.link joint)
    return false
  | 0, none => do
    if solid then
      let _ ← Lay.states 1 0
      let joint ← lay
      Lay.branches (1 + Lay.link joint)
      return true
    else
      let joint ← lay
      let _ ← Lay.states 3 0
      Lay.branches (4 + Lay.link joint)
      return false
  | 1, none => do
    let joint ← lay
    let _ ← Lay.states 1 0
    Lay.branches (1 + Lay.link joint)
    return true
  | least, none => do
    let front ← layTimes lay (least - 1)
    let joint ← lay
    let _ ← Lay.states 1 0
    Lay.branches (1 + Lay.link front + Lay.link joint)
    return true
  | least, some most => do
    let front ← layTimes lay least
    if least = most then return front
    else
      let _ ← Lay.states 1 0
      let last ← Lay.times (fun joint => do
        let _ ← Lay.states 1 0
        let next ← lay
        Lay.branches (2 + Lay.link joint)
        return next) (most - least) front
      Lay.branches (Lay.link last)
      return false

mutual

def lay : Block → Lay Bool
  | .plain count extra => do
    let _ ← Lay.states count extra
    return false
  | .set backwards paths => do
    laySet backwards paths
    return false
  | .marked b => do
    let _ ← Lay.states 1 0
    let joint ← b.lay
    let _ ← Lay.states 1 0
    Lay.branches (Lay.link joint)
    return false
  | .seq bs => laySeq bs false
  | .alt bs => do
    layBranches 2 bs
    return false
  | .repeated least most solid b => layRepeated b.lay solid least most

/-- Lay out blocks one after the other, after one that ends in a junction or not. -/
def laySeq : List Block → Bool → Lay Bool
  | [], joint => return joint
  | b :: rest, joint => do
    let next ← b.lay
    Lay.branches (Lay.link joint)
    laySeq rest next

def layBranches : Nat → List Block → Lay Unit
  | _, [] => return ()
  | due, b :: rest => do
    let joint ← b.lay
    Lay.branches (1 + Lay.link joint)
    if due = 1 then
      let _ ← Lay.states 2 0
    layBranches (due - 1) rest

end

/-- Lay out the automaton of a block: what skips the text in front of a match, unless every match starts
with the text, the block, marks around it if it is read forwards, and its end. -/
def layMachine (backwards tied : Bool) (b : Block) : Lay Unit := do
  if tied then
    let _ ← Lay.states 1 0
  else
    let _ ← Lay.states 3 12
  let joint ← if backwards then b.lay else (Block.marked b).lay
  let _ ← Lay.states 1 0
  Lay.branches (Lay.link joint + if tied then 0 else 1)

end Block

/-- Whether the automaton of a normal form stays within the limit in one direction of reading. -/
def Normal.fits (backwards : Bool) (e : Normal) : Bool :=
  let tied := if backwards then e.endsText else e.startsText
  ((Block.ofNormal backwards e).layMachine backwards tied).run ⟨0, 0⟩ |>.isSome

/-- Whether the automata of both directions stay within the limit. -/
def Expr.fitsMachine (e : Expr) : Bool :=
  e.normal.fits false && e.normal.fits true

end Pattern
end StoryLoom
