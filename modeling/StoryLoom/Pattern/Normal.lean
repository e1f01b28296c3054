import StoryLoom.Pattern.Expr

/-!
# Normal — regular expressions in normal form

- `Normal`  : regular expressions with texts for single characters one after the other
- `minLength?`, `maxLength?` : bounds on the bytes of a match
- `startsText`, `endsText`   : whether every match is at an end of the text
- `concat`, `alternation`, `repetition` : making normal forms
- `Expr.normal` : the normal form of an expression

A sequence has no sequences, blanks or neighbouring texts among its parts; alternatives have no
alternatives among them, are no mere sets, and do not all start alike; a repetition is not just one time.
Characters count as many bytes as UTF-8 takes for them.
-/

namespace StoryLoom
namespace Pattern

inductive Normal
  | blank
  /-- A text of one character or more. -/
  | text (cs : List Char)
  /-- One character of a set that has not just one. -/
  | chars (k : CharSet)
  | assertion (a : Assertion)
  | seq (parts : List Normal)
  | alt (branches : List Normal)
  | repeated (least : Nat) (most : Option Nat) (lazy : Bool) (e : Normal)
  | group (index : Nat) (e : Normal)
  deriving Repr

namespace Normal

mutual

def same : Normal → Normal → Bool
  | .blank, .blank => true
  | .text cs, .text ds => cs == ds
  | .chars k, .chars l => k == l
  | .assertion a, .assertion b => a == b
  | .seq ps, .seq qs => sameAll ps qs
  | .alt ps, .alt qs => sameAll ps qs
  | .repeated least most lazy e, .repeated least' most' lazy' e' =>
    least == least' && most == most' && lazy == lazy' && same e e'
  | .group i e, .group j e' => i == j && same e e'
  | _, _ => false

def sameAll : List Normal → List Normal → Bool
  | [], [] => true
  | p :: ps, q :: qs => same p q && sameAll ps qs
  | _, _ => false

end

/-! ## Lengths -/

def bytesOf (point : Nat) : Nat :=
  if point < 0x80 then 1 else if point < 0x800 then 2 else if point < 0x10000 then 3 else 4

def textBytes (cs : List Char) : Nat :=
  (cs.map fun c => bytesOf c.toNat).foldl (· + ·) 0

mutual

def minLength? : Normal → Option Nat
  | .blank => some 0
  | .text cs => some (textBytes cs)
  | .chars k => k.ranges.head?.map fun r => bytesOf r.1
  | .assertion _ => some 0
  | .seq ps => minSum? ps
  | .alt ps => minOfAll? ps
  | .repeated least _ _ e => e.minLength?.map (least * ·)
  | .group _ e => e.minLength?

def minSum? : List Normal → Option Nat
  | [] => some 0
  | p :: ps => do return (← p.minLength?) + (← minSum? ps)

def minOfAll? : List Normal → Option Nat
  | [] => none
  | [p] => p.minLength?
  | p :: ps => do return min (← p.minLength?) (← minOfAll? ps)

end

mutual

def maxLength? : Normal → Option Nat
  | .blank => some 0
  | .text cs => some (textBytes cs)
  | .chars k => k.ranges.getLast?.map fun r => bytesOf r.2
  | .assertion _ => some 0
  | .seq ps => maxSum? ps
  | .alt ps => maxOfAll? ps
  | .repeated _ most _ e => do return (← most) * (← e.maxLength?)
  | .group _ e => e.maxLength?

def maxSum? : List Normal → Option Nat
  | [] => some 0
  | p :: ps => do return (← p.maxLength?) + (← maxSum? ps)

def maxOfAll? : List Normal → Option Nat
  | [] => none
  | [p] => p.maxLength?
  | p :: ps => do return max (← p.maxLength?) (← maxOfAll? ps)

end

/-! ## Ends of the text -/

mutual

/-- Whether every match has to be where a condition holds that is met in front of its first
character, or behind its last where `fromEnd` is set. -/
def demands (a : Assertion) (fromEnd : Bool) : Normal → Bool
  | .assertion b => a == b
  | .seq ps => if fromEnd then demandsAtEnd a ps else demandsAtStart a ps
  | .alt ps => demandsInAll a fromEnd ps
  | .repeated least _ _ e => 0 < least && demands a fromEnd e
  | .group _ e => demands a fromEnd e
  | _ => false

/-- The same of a sequence, in front of its first character. -/
def demandsAtStart (a : Assertion) : List Normal → Bool
  | [] => false
  | p :: ps => demands a false p || (p.maxLength? == some 0 && demandsAtStart a ps)

/-- The same of a sequence, behind its last character. -/
def demandsAtEnd (a : Assertion) : List Normal → Bool
  | [] => false
  | p :: ps => demandsAtEnd a ps || (maxSum? ps == some 0 && demands a true p)

/-- The same of each of several alternatives. -/
def demandsInAll (a : Assertion) (fromEnd : Bool) : List Normal → Bool
  | [] => true
  | p :: ps => demands a fromEnd p && demandsInAll a fromEnd ps

end

def startsText (e : Normal) : Bool :=
  e.demands .textStart false

def endsText (e : Normal) : Bool :=
  e.demands .textEnd true

/-! ## Making normal forms -/

def ofSet (k : CharSet) : Normal :=
  match k.single? with
  | some c => .text [c]
  | none => .chars k

def parts : Normal → List Normal
  | .blank => []
  | .seq ps => ps
  | e => [e]

def joinTexts : List Normal → List Normal
  | [] => []
  | .text cs :: rest =>
    match joinTexts rest with
    | .text ds :: rest => .text (cs ++ ds) :: rest
    | rest => .text cs :: rest
  | e :: rest => e :: joinTexts rest

def concat (es : List Normal) : Normal :=
  match joinTexts (es.flatMap parts) with
  | [] => .blank
  | [e] => e
  | ps => .seq ps

def branches : Normal → List Normal
  | .alt ps => ps
  | e => [e]

def char? : Normal → Option Char
  | .text [c] => some c
  | _ => none

def set? : Normal → Option CharSet
  | .chars k => some k
  | _ => none

def seq? : Normal → Option (List Normal)
  | .seq ps => some ps
  | _ => none

def commonStart : List Normal → List Normal → List Normal
  | p :: ps, q :: qs => if same p q then p :: commonStart ps qs else []
  | _, _ => []

/-- Alternatives as one set, where all are characters or all are sets. -/
def asSet? (es : List Normal) : Option CharSet :=
  match es.mapM char? with
  | some cs => some (.ofRanges (cs.map fun c => (c.toNat, c.toNat)))
  | none => (es.mapM set?).map fun ks => ks.foldl CharSet.union .nothing

/-- Alternatives of which no more is known than that there are two or more. -/
def choice (es : List Normal) : Normal :=
  match asSet? es with
  | some k => ofSet k
  | none => .alt es

/-- Alternatives. What all of them start with is put in front of them; the ends left over do not start
alike once more. -/
def alternation (es : List Normal) : Normal :=
  match es.flatMap branches with
  | [e] => e
  | es =>
    match asSet? es, es.mapM seq? with
    | none, some (first :: others) =>
      match others.foldl commonStart first with
      | [] => .alt es
      | start =>
        let ends := (first :: others).map fun ps => concat (ps.drop start.length)
        concat (start ++ [choice (ends.flatMap branches)])
    | _, _ => choice es

/-- A repetition. What matches the empty text alone is repeated once at most. -/
def repetition (least : Nat) (most : Option Nat) (lazy : Bool) (e : Normal) : Normal :=
  let (least, most) :=
    if e.maxLength? = some 0 then (min least 1, some (min (most.getD 1) 1)) else (least, most)
  if most = some 0 then .blank
  else if least = 1 && most = some 1 then e
  else .repeated least most lazy e

end Normal

mutual

def Expr.normal : Expr → Normal
  | .blank => .blank
  | .chars k => .ofSet k
  | .assertion a => .assertion a
  | .seq ps => .concat (normals ps)
  | .alt ps => .alternation (normals ps)
  | .repeated least most lazy e => .repetition least most lazy e.normal
  | .group i e => .group i e.normal

def normals : List Expr → List Normal
  | [] => []
  | e :: rest => e.normal :: normals rest

end

end Pattern
end StoryLoom
