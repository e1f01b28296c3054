/-!
# Base36 — numerals with the digits `0`–`9` and `A`–`Z`

- `digit`   : the character of one digit value
- `digits`  : the digits of a number, the most significant first
- `numeral` : the digits as a text
-/

namespace StoryLoom
namespace Base36

/-- The character that stands for a digit value below 36. -/
def digit (n : Nat) : Char :=
  if n < 10 then Char.ofNat ('0'.toNat + n) else Char.ofNat ('A'.toNat + (n - 10))

/-- The digits of a number put in front of `tail`; none for zero. -/
def digitsBefore (n : Nat) (tail : List Char) : List Char :=
  if n = 0 then tail else digitsBefore (n / 36) (digit (n % 36) :: tail)
termination_by n
decreasing_by omega

def digits (n : Nat) : List Char :=
  if n = 0 then ['0'] else digitsBefore n []

def numeral (n : Nat) : String :=
  String.ofList (digits n)

end Base36
end StoryLoom
