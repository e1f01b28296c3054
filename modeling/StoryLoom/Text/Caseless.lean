/-!
# Caseless — comparison of texts up to the case of ASCII letters

- `lower`       : a text with its ASCII capitals made small, all else kept
- `sameLetters` : equality of two texts up to that case
-/

namespace StoryLoom
namespace Text

/-- The text with ASCII capitals made small; no other character has a case here. -/
def lower (text : String) : String :=
  String.ofList (text.toList.map Char.toLower)

def sameLetters (a b : String) : Bool :=
  a.toList.map Char.toLower == b.toList.map Char.toLower

end Text
end StoryLoom
