/-!
# Utf8 — ranges of characters as ranges of bytes

- `encode` : the bytes of a code point
- `paths`  : the sequences of byte ranges that spell the characters of a range

Every path spells all combinations of bytes from its ranges, in the order of the characters; the
surrogates have no spelling.
-/

namespace StoryLoom
namespace Text
namespace Utf8

/-- A range of bytes, both ends included. -/
abbrev ByteRange := Nat × Nat

def encode (n : Nat) : List Nat :=
  if n < 0x80 then [n]
  else if n < 0x800 then [0xC0 + n / 0x40, 0x80 + n % 0x40]
  else if n < 0x10000 then [0xE0 + n / 0x1000, 0x80 + n / 0x40 % 0x40, 0x80 + n % 0x40]
  else [0xF0 + n / 0x40000, 0x80 + n / 0x1000 % 0x40, 0x80 + n / 0x40 % 0x40, 0x80 + n % 0x40]

/-- Where a range of characters has to be split, as the last point of its first part: at the surrogates,
where the number of bytes changes, and where the bytes of both ends differ before a byte that does not run
through all its values. -/
def splitPoint? (lo hi : Nat) : Option Nat :=
  if lo ≤ 0x7F && 0x7F < hi then some 0x7F
  else if lo ≤ 0x7FF && 0x7FF < hi then some 0x7FF
  else if lo ≤ 0xFFFF && 0xFFFF < hi then some 0xFFFF
  else if hi ≤ 0x7F then none
  else
    [0x40, 0x1000, 0x40000].findSome? fun block =>
      if lo / block = hi / block then none
      else if lo % block ≠ 0 then some (lo / block * block + (block - 1))
      else if hi % block ≠ block - 1 then some (hi / block * block - 1)
      else none

/-- The paths of a range that is split at most so many times in a row. -/
def pathsUpTo : Nat → Nat → Nat → List (List ByteRange)
  | 0, _, _ => []
  | splits + 1, lo, hi =>
    if hi < lo then []
    else if lo < 0xE000 && 0xD7FF < hi then
      pathsUpTo splits lo 0xD7FF ++ pathsUpTo splits 0xE000 hi
    else
      match splitPoint? lo hi with
      | some mid => pathsUpTo splits lo mid ++ pathsUpTo splits (mid + 1) hi
      | none => [(encode lo).zip (encode hi)]

/-- The paths of the characters from `lo` to `hi`: one split at the surrogates, three between numbers of
bytes and two for each further byte are enough. -/
def paths (lo hi : Nat) : List (List ByteRange) :=
  pathsUpTo 16 lo hi

end Utf8
end Text
end StoryLoom
