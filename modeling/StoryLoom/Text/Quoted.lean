import StoryLoom.Unicode.Hidden

/-!
# Quoted — a text in double quotes

- `quotedChar` : what stands for one character
- `quoted`     : the text between quotes, with its characters so replaced

A quote and a backslash get a backslash; line feed, return, tab and the null character have letters
of their own; every other hidden character is written by its code point in hexadecimal.
-/

namespace StoryLoom
namespace Text

def hexNumeral (n : Nat) : List Char :=
  Nat.toDigits 16 n

/-- What stands for a character inside quotes. -/
def quotedChar (c : Char) : List Char :=
  if c = '"' then ['\\', '"']
  else if c = '\\' then ['\\', '\\']
  else if c = '\n' then ['\\', 'n']
  else if c = '\r' then ['\\', 'r']
  else if c = '\t' then ['\\', 't']
  else if c.toNat = 0 then ['\\', '0']
  else if Unicode.isHidden c then ['\\', 'u', '\x7b'] ++ hexNumeral c.toNat ++ ['\x7d']
  else [c]

def quoted (text : String) : String :=
  String.ofList ('"' :: text.toList.flatMap quotedChar ++ ['"'])

end Text
end StoryLoom
