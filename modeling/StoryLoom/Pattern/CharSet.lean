import StoryLoom.Unicode.CaseVariant
import StoryLoom.Unicode.Word

/-!
# CharSet — sets of characters

- `CharSet`    : a set as its ranges in ascending order, no two of which touch
- `mem`        : membership
- `ofRanges`, `union`, `complement`, `inter`, `diff`, `symmDiff`, `caseless` : making sets
- `CharSet.letter`, …, `CharSet.named?` : sets that have a name

The code points of the surrogates are no characters: the character after `D7FF` is `E000`.
-/

namespace StoryLoom
namespace Pattern

structure CharSet where
  ranges : Unicode.Ranges
  deriving DecidableEq, Repr

namespace CharSet

def mem (k : CharSet) (c : Char) : Bool :=
  Unicode.inRanges k.ranges c.toNat

/-! ## Neighbours -/

def lastPoint : Nat := 0x10FFFF

def after (n : Nat) : Nat :=
  if n = 0xD7FF then 0xE000 else n + 1

def before (n : Nat) : Nat :=
  if n = 0xE000 then 0xD7FF else n - 1

/-! ## Making sets -/

def nothing : CharSet :=
  ⟨[]⟩

def between (lo hi : Char) : CharSet :=
  ⟨[(lo.toNat, hi.toNat)]⟩

def single (c : Char) : CharSet :=
  between c c

/-- Put a range into a table. It swallows the ranges that it touches. -/
def insertRange (lo hi : Nat) : Unicode.Ranges → Unicode.Ranges
  | [] => [(lo, hi)]
  | (a, b) :: rest =>
    if hi + 1 < a then (lo, hi) :: (a, b) :: rest
    else if b + 1 < lo then (a, b) :: insertRange lo hi rest
    else insertRange (min lo a) (max hi b) rest

def insertAll (ranges table : Unicode.Ranges) : Unicode.Ranges :=
  ranges.foldr (fun r table => insertRange r.1 r.2 table) table

def ofRanges (ranges : Unicode.Ranges) : CharSet :=
  ⟨insertAll ranges []⟩

def union (a b : CharSet) : CharSet :=
  ⟨insertAll b.ranges a.ranges⟩

/-- The gaps of a table after one of its ranges has ended. -/
def gapsAfter (end_ : Nat) : Unicode.Ranges → Unicode.Ranges
  | [] => if end_ < lastPoint then [(after end_, lastPoint)] else []
  | (a, b) :: rest =>
    (min (after end_) (before a), max (after end_) (before a)) :: gapsAfter b rest

def complement (k : CharSet) : CharSet :=
  match k.ranges with
  | [] => ⟨[(0, lastPoint)]⟩
  | (a, b) :: rest => ⟨(if 0 < a then [(0, before a)] else []) ++ gapsAfter b rest⟩

def overlap? (r s : Nat × Nat) : Option (Nat × Nat) :=
  if max r.1 s.1 ≤ min r.2 s.2 then some (max r.1 s.1, min r.2 s.2) else none

def inter (a b : CharSet) : CharSet :=
  ⟨a.ranges.flatMap fun r => b.ranges.filterMap (overlap? r)⟩

/-- What a table leaves of the characters from `lo` to `hi`. -/
def cut (lo hi : Nat) : Unicode.Ranges → Unicode.Ranges
  | [] => [(lo, hi)]
  | (a, b) :: rest =>
    if b < lo then cut lo hi rest
    else if hi < a then [(lo, hi)]
    else (if lo < a then [(lo, before a)] else []) ++ (if b < hi then cut (after b) hi rest else [])

def diff (a b : CharSet) : CharSet :=
  ⟨a.ranges.flatMap fun r => cut r.1 r.2 b.ranges⟩

/-- The characters that belong to just one of two sets. -/
def symmDiff (a b : CharSet) : CharSet :=
  (a.union b).diff (a.inter b)

/-- A set with all that differs from its members in case only. -/
def caseless (k : CharSet) : CharSet :=
  ⟨insertAll (Unicode.variantRanges k.ranges) k.ranges⟩

/-- The same where case is known for the characters below 128 alone. -/
def asciiCaseless (k : CharSet) : CharSet :=
  ⟨insertAll (Unicode.asciiVariantRanges k.ranges) k.ranges⟩

/-! ## Looking at sets -/

def single? (k : CharSet) : Option Char :=
  match k.ranges with
  | [(a, b)] => if a = b then some (Char.ofNat a) else none
  | _ => none

def isAscii (k : CharSet) : Bool :=
  k.ranges.all fun r => r.2 < 128

/-! ## Sets that have a name -/

def letter : CharSet :=
  ⟨Unicode.letterRanges⟩

def capital : CharSet :=
  ⟨Unicode.capitalRanges⟩

def small : CharSet :=
  ⟨Unicode.smallRanges⟩

def digit : CharSet :=
  ⟨Unicode.digitRanges⟩

def word : CharSet :=
  ⟨insertAll Unicode.digitRanges (insertAll Unicode.wordMarkRanges Unicode.letterRanges)⟩

def blank : CharSet :=
  ⟨[(0x9, 0xD), (0x20, 0x20), (0x85, 0x85), (0xA0, 0xA0), (0x1680, 0x1680), (0x2000, 0x200A),
    (0x2028, 0x2029), (0x202F, 0x202F), (0x205F, 0x205F), (0x3000, 0x3000)]⟩

def asciiDigit : CharSet :=
  ofRanges [(0x30, 0x39)]

def asciiWord : CharSet :=
  ofRanges [(0x30, 0x39), (0x41, 0x5A), (0x5F, 0x5F), (0x61, 0x7A)]

def asciiBlank : CharSet :=
  ofRanges [(0x9, 0xD), (0x20, 0x20)]

def ascii : CharSet :=
  ofRanges [(0x0, 0x7F)]

/-- The sets that have a name between `[:` and `:]`. -/
def named? : String → Option CharSet
  | "alnum" => some (ofRanges [(0x30, 0x39), (0x41, 0x5A), (0x61, 0x7A)])
  | "alpha" => some (ofRanges [(0x41, 0x5A), (0x61, 0x7A)])
  | "ascii" => some ascii
  | "blank" => some (ofRanges [(0x9, 0x9), (0x20, 0x20)])
  | "cntrl" => some (ofRanges [(0x0, 0x1F), (0x7F, 0x7F)])
  | "digit" => some asciiDigit
  | "graph" => some (ofRanges [(0x21, 0x7E)])
  | "lower" => some (ofRanges [(0x61, 0x7A)])
  | "print" => some (ofRanges [(0x20, 0x7E)])
  | "punct" => some (ofRanges [(0x21, 0x2F), (0x3A, 0x40), (0x5B, 0x60), (0x7B, 0x7E)])
  | "space" => some asciiBlank
  | "upper" => some (ofRanges [(0x41, 0x5A)])
  | "word" => some asciiWord
  | "xdigit" => some (ofRanges [(0x30, 0x39), (0x41, 0x46), (0x61, 0x66)])
  | _ => none

@[simp] theorem mem_single {c d : Char} : (single c).mem d = true ↔ d = c := by
  simp only [mem, single, between, Unicode.inRanges]
  split
  · rename_i h
    constructor
    · intro hf; cases hf
    · rintro rfl; exact absurd h (Nat.lt_irrefl _)
  · rename_i h
    split
    · rename_i h2
      constructor
      · intro _
        exact Char.toNat_inj.1 (Nat.le_antisymm h2 (Nat.le_of_not_lt h))
      · intro _; rfl
    · rename_i h2
      constructor
      · intro hf; cases hf
      · rintro rfl; exact absurd (Nat.le_refl _) h2

end CharSet
end Pattern
end StoryLoom
