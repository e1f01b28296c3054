/-!
# Blank — the blank characters and trimming

- `isBlank` : the characters of Unicode's `White_Space` property
- `trim`    : a text without its blanks at both ends
-/

namespace StoryLoom
namespace Text

/-- The property `White_Space`: 25 characters, fixed since Unicode 6.3. -/
def isBlank (c : Char) : Bool :=
  let n := c.toNat
  (9 ≤ n && n ≤ 13) || n == 0x20 || n == 0x85 || n == 0xA0 || n == 0x1680 ||
    (0x2000 ≤ n && n ≤ 0x200A) || n == 0x2028 || n == 0x2029 || n == 0x202F ||
    n == 0x205F || n == 0x3000

def trimList (cs : List Char) : List Char :=
  ((cs.dropWhile isBlank).reverse.dropWhile isBlank).reverse

def trim (text : String) : String :=
  String.ofList (trimList text.toList)

end Text
end StoryLoom
