import StoryLoom.Pattern.Reader.Escape

/-!
# Bracket — sets in brackets

- `Members`   : the members of a set so far, and how deep its parts are nested
- `setRange`  : a member, or a range between two
- `bracketed` : a set in brackets

A set is a union of members, or an operation between such unions; operations group to the left. A set in
brackets, a union of two members or more and an operation count one level of nesting each.
-/

namespace StoryLoom
namespace Pattern
namespace Read

structure Nested (α : Type) where
  value : α
  depth : Nat

structure Members where
  set : CharSet := .nothing
  count : Nat := 0
  depth : Nat := 0

/-- The members with one more, the parts of which are nested so deep. -/
def Members.addNested (m : Members) (k : Nested CharSet) : Members :=
  ⟨m.set.union k.value, m.count + 1, max m.depth k.depth⟩

def Members.add (m : Members) (k : CharSet) : Members :=
  m.addNested ⟨k, 0⟩

def Members.close (m : Members) : Nested CharSet :=
  ⟨m.set, if m.count < 2 then m.depth else m.depth + 1⟩

inductive SetOp
  | inter
  | diff
  | symmDiff

def SetOp.apply (op : SetOp) (a b : CharSet) : CharSet :=
  match op with
  | .inter => a.inter b
  | .diff => a.diff b
  | .symmDiff => a.symmDiff b

def setOp? : List Char → Option SetOp
  | c :: d :: _ =>
    if c != d then none
    else if c = '&' then some .inter
    else if c = '-' then some .diff
    else if c = '~' then some .symmDiff
    else none
  | _ => none

/-- What stands left of an operation together with the set right of it. Both sides are folded where case
does not count. -/
def closeOp (flags : Flags) (left : Option (SetOp × Nested CharSet)) (right : Nested CharSet) :
    Nested CharSet :=
  match left with
  | none => right
  | some (op, left) =>
    ⟨op.apply (flags.fold left.value) (flags.fold right.value), max left.depth right.depth + 1⟩

def setMember : Read Primitive := do
  let c ← peek
  if c = '\\' then escape
  else
    bump 1
    return .literal c

def setLiteral (c : Char) : Read Char := do
  if 128 ≤ c.toNat && (← flags).asciiOnly then failure else return c

/-- Text without the blanks in front and without a first `#` and the blanks behind that. -/
def behindBlanks (cs : List Char) : List Char :=
  let more := cs.dropWhile Text.isBlank
  if more.head? == some '#' then (more.drop 1).dropWhile Text.isBlank else more

/-- The character that shows whether a hyphen joins a range: the first one after the hyphen that is no
blank. A first `#` counts as blank. -/
def afterHyphen (spaced : Bool) (rest : List Char) : Option Char :=
  if spaced then (behindBlanks rest).head?.or rest.head? else rest.head?

/-- Whether what comes next joins a member to another one in a range. -/
def joinsRange (spaced : Bool) : List Char → Bool
  | '-' :: more =>
    let next := afterHyphen spaced more
    !(next == some ']' || next == some '-')
  | _ => false

def setRange : Read CharSet := do
  let first ← setMember
  skipSpace
  let _ ← peek
  let s ← get
  if joinsRange s.flags.spaced s.rest then
    bumpInside
    match first, (← setMember) with
    | .literal lo, .literal hi =>
      if lo ≤ hi then return .between (← setLiteral lo) (← setLiteral hi) else failure
    | _, _ => failure
  else
    match first with
    | .literal c => return .single (← setLiteral c)
    | .set k => return k
    | .assertion _ => failure

/-- A set such as `[:alpha:]` in front of a text, whether it is negated, and the rest. -/
def asciiSetOf? (cs : List Char) : Option (Bool × CharSet × List Char) :=
  if "[:".toList.isPrefixOf cs then
    let negated := (cs.drop 2).head? == some '^'
    let name := cs.drop (if negated then 3 else 2)
    let behind := name.dropWhile (· != ':')
    if ":]".toList.isPrefixOf behind then
      (CharSet.named? (String.ofList (name.takeWhile (· != ':')))).map fun k =>
        (negated, k, behind.drop 2)
    else none
  else none

/-- A set such as `[:alpha:]`, if one comes next. -/
def asciiSet? : Read (Option CharSet) := do
  let s ← get
  match asciiSetOf? s.rest with
  | some (negated, k, rest) =>
    set { s with rest := rest }
    return some (← negateIf negated (s.flags.fold k))
  | none => return none

/-- Hyphens at the start of a set stand for themselves. -/
def leadingHyphens : Nat → Members → Read Members
  | 0, m => return m
  | n + 1, m => do
    if (← peek) = '-' then
      bumpInside
      leadingHyphens n (m.add (.single '-'))
    else return m

/-- The first members of a set after its bracket and the mark that negates it. -/
def setStart (negated : Bool) : Read (Bool × Members) := do
  let members ← leadingHyphens (← get).rest.length {}
  if members.count = 0 && (← peek) = ']' then
    bumpInside
    return (negated, members.add (.single ']'))
  else
    return (negated, members)

def setOpening : Read (Bool × Members) := do
  bumpInside
  if (← peek) = '^' then
    bumpInside
    setStart true
  else setStart false

mutual

def bracketed : Nat → Read (Nested CharSet)
  | 0 => failure
  | n + 1 => do
    let flags ← flags
    let (negated, members) ← setOpening
    let k ← setItems n none members
    return ⟨← negateIf negated (flags.fold k.value), k.depth + 1⟩

def setItems : Nat → Option (SetOp × Nested CharSet) → Members → Read (Nested CharSet)
  | 0, _, _ => failure
  | n + 1, left, members => do
    skipSpace
    let c ← peek
    let s ← get
    if c = ']' then
      bump 1
      return closeOp s.flags left members.close
    else
      match setOp? s.rest with
      | some op =>
        bump 2
        setItems n (some (op, closeOp s.flags left members.close)) {}
      | none =>
        if c = '[' then
          match (← asciiSet?) with
          | some k => setItems n left (members.add k)
          | none => setItems n left (members.addNested (← bracketed n))
        else setItems n left (members.add (← setRange))

end

end Read
end Pattern
end StoryLoom
