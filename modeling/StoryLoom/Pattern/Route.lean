import StoryLoom.Pattern.Expr

/-!
# Route — how an expression moves through a text

- `PosSet`    : sets of positions of a text
- `PosSet.glide` : the positions reached by steps from some to the next
- `Route`     : how the matches of an expression move between the positions of one text
- `ends`      : where the matches from some positions end
- `Expr.route`, `Expr.occursIn` : the moves of an expression, and whether some part of a text matches

The positions of a text with `n` characters are `0` to `n`. A set of positions is a number, the bits of
which are its members, so that an expression is applied to all positions of a set at once. A repetition is
applied until nothing changes. One without bound inside another is worked out once for each position, from
the last to the first, since it would be applied over and over.
-/

namespace StoryLoom
namespace Pattern

/-- A set of positions: bit `p` tells whether `p` belongs to it. -/
abbrev PosSet := Nat

namespace PosSet

def single (p : Nat) : PosSet :=
  1 <<< p

def upTo (n : Nat) : PosSet :=
  (1 <<< (n + 1)) - 1

/-- The union of what is reached from the members of a set, of which there are at most `room`. What is
reached from a position contains all that is reached from there on, so that its members are done with. -/
def gather (reached : Nat → PosSet) : Nat → PosSet → PosSet
  | 0, _ => 0
  | room + 1, s =>
    if s = 0 then 0
    else
      let first := s - (s &&& (s - 1))
      let t := reached first.log2
      t ||| gather reached room (s - (s &&& (t ||| first)))

/-- The positions of the bits that are set, where the next bit has the weight `weight` and `sum` is the
weight of the bits before it. A new number is begun after each 32 bits. -/
def ofBitsFrom (weight sum : Nat) : List Bool → PosSet
  | [] => sum
  | b :: rest =>
    let sum := if b then sum + weight else sum
    if weight = 1 <<< 31 then sum + (ofBitsFrom 1 0 rest <<< 32)
    else ofBitsFrom (2 * weight) sum rest

/-- The positions of the bits that are set. -/
def ofBits (bits : List Bool) : PosSet :=
  ofBitsFrom 1 0 bits

/-- What a predicate says of the neighbours of each position, from one with a given character before it
on. -/
def neighbours (holds : Option Char → Option Char → Bool) : Option Char → List Char → List Bool
  | before, [] => [holds before none]
  | before, c :: rest => holds before (some c) :: neighbours holds (some c) rest

/-- The positions reached by any number of steps from a position of `places` to the next one. Adding the
places to themselves at the starts carries each start through the places that follow it at once. -/
def glide (places starts : PosSet) : PosSet :=
  (((starts &&& places) + places) ^^^ places) ||| starts

end PosSet

/-- A function applied so often to a set, or until the set stays the same. -/
def iterate (f : PosSet → PosSet) : Nat → PosSet → PosSet
  | 0, s => s
  | n + 1, s =>
    let t := f s
    if t = s then s else iterate f n t

/-- Where any number of moves from each of the last `k` positions ends; `n` is the last position. The
entry of position `p` is number `n - p`. -/
def closures (f : PosSet → PosSet) (n : Nat) : Nat → Array PosSet
  | 0 => #[]
  | k + 1 =>
    let later := closures f n k
    let p := n - k
    let next := f (PosSet.single p)
    let further := next - (next &&& PosSet.single p)
    later.push (PosSet.single p ||| PosSet.gather (fun q => later[n - q]?.getD 0) (n + 1) further)

inductive Route
  /-- No move. -/
  | stay
  /-- One position on from each of these. -/
  | step (places : PosSet)
  /-- No move, and only at these. -/
  | gate (places : PosSet)
  /-- Moves one after the other. -/
  | chain (rs : List Route)
  /-- One of several moves. -/
  | fork (rs : List Route)
  /-- So many moves. -/
  | times (count : Nat) (r : Route)
  /-- Any number of steps from each of these. -/
  | glide (places : PosSet)
  /-- Any number of moves, as worked out for each position of a text with so many characters. -/
  | loop (length : Nat) (table : Array PosSet)

namespace Route

mutual

def ends : Route → PosSet → PosSet
  | .stay, s => s
  | .step places, s => (s &&& places) <<< 1
  | .gate places, s => s &&& places
  | .chain rs, s => endsOfChain rs s
  | .fork rs, s => endsOfFork rs s
  | .times count r, s => iterate r.ends count s
  | .glide places, s => PosSet.glide places s
  | .loop length table, s => PosSet.gather (fun p => table[length - p]?.getD 0) (length + 1) s

def endsOfChain : List Route → PosSet → PosSet
  | [], s => s
  | r :: rest, s => endsOfChain rest (r.ends s)

def endsOfFork : List Route → PosSet → PosSet
  | [], _ => 0
  | r :: rest, s => r.ends s ||| endsOfFork rest s

end

mutual

/-- The places from which moves go, if all of them go just one position on. -/
def step? : Route → Option PosSet
  | .step places => some places
  | .fork rs => stepOfAll? rs
  | _ => none

def stepOfAll? : List Route → Option PosSet
  | [] => some 0
  | r :: rest => do return (← r.step?) ||| (← stepOfAll? rest)

end

def atMost (count : Nat) (r : Route) : Route :=
  .times count (.fork [.stay, r])

/-- Any number of moves in a text with so many characters, which no more moves than that get through. -/
def anyTimes (length : Nat) (inLoop : Bool) (r : Route) : Route :=
  match r.step? with
  | some places => .glide places
  | none => if inLoop then .loop length (closures r.ends length (length + 1)) else r.atMost length

end Route

def Assertion.places (text : List Char) : Assertion → PosSet
  | .textStart => PosSet.single 0
  | .textEnd => PosSet.single text.length
  | a => PosSet.ofBits (PosSet.neighbours (fun before after => a.holds before after) none text)

namespace Expr

mutual

/-- The moves of an expression between the positions of a text, inside a repetition without bound or
not. -/
def route (text : List Char) (inLoop : Bool) : Expr → Route
  | .blank => .stay
  | .chars k => .step (PosSet.ofBits (text.map k.mem))
  | .assertion a => .gate (a.places text)
  | .seq parts => .chain (routes text inLoop parts)
  | .alt branches => .fork (routes text inLoop branches)
  | .repeated least none _ e =>
    let r := e.route text true
    .chain [.times least r, r.anyTimes text.length inLoop]
  | .repeated least (some most) _ e =>
    let r := e.route text inLoop
    .chain [.times least r, r.atMost (most - least)]
  | .group _ e => e.route text inLoop

def routes (text : List Char) (inLoop : Bool) : List Expr → List Route
  | [] => []
  | e :: rest => e.route text inLoop :: routes text inLoop rest

end

/-- Whether some part of a text matches. -/
def occursIn (e : Expr) (text : List Char) : Bool :=
  (e.route text false).ends (PosSet.upTo text.length) != 0

end Expr
end Pattern
end StoryLoom
