import StoryLoom.Numeral.Base36

/-!
# Reading — base-36 numerals as numbers

- `IsDigit`       : the characters that numerals are made of
- `value`         : what one digit stands for
- `valueOf`       : the number of a numeral
- `IsNumeral`     : digits, with no zero in front of others
- `valueOf_digits`: a numeral that was written is read back
- `digits_injective` : so different numbers have different numerals
- `digits_valueOf`: a numeral that was read is written again
- `numeral_stands_for_one_number` : numerals and numbers answer to each other

Writing starts with the last digit and reading with the first one. What joins them is the part of a number
that is still to be written: it is the number of the digits in front.
-/

namespace StoryLoom
namespace Base36

/-! ## Digits -/

/-- The characters that numerals are made of: digits and capital letters. -/
def IsDigit (c : Char) : Prop :=
  c.isDigit = true ∨ c.isUpper = true

/-- The number that a digit stands for. -/
def value (c : Char) : Nat :=
  if c.isDigit then c.toNat - '0'.toNat else c.toNat - 'A'.toNat + 10

/-- Each digit is read as the number it was written for. -/
theorem value_digit : ∀ n < 36, value (digit n) = n := by
  decide

/-- What is written below 36 is a digit. -/
theorem isDigit_digit : ∀ n < 36, IsDigit (digit n) := by
  unfold IsDigit
  decide

/-- Only zero is written as a zero. -/
theorem digit_ne_zero : ∀ n < 36, n ≠ 0 → digit n ≠ '0' := by
  decide

/-- A decimal digit stands for its distance to zero. -/
theorem value_of_isDigit {c : Char} (h : c.isDigit = true) :
    value c < 10 ∧ c.toNat = '0'.toNat + value c := by
  have bounds : 48 ≤ c.toNat ∧ c.toNat ≤ 57 := by
    simpa [Char.isDigit, UInt32.le_iff_toNat_le, ← Char.toNat_val] using h
  have own : value c = c.toNat - 48 := by simp [value, h]
  have zero : '0'.toNat = 48 := rfl
  omega

/-- A letter stands for ten and its distance to A. -/
theorem value_of_isUpper {c : Char} (h : c.isUpper = true) :
    10 ≤ value c ∧ value c < 36 ∧ c.toNat = 'A'.toNat + (value c - 10) := by
  have bounds : 65 ≤ c.toNat ∧ c.toNat ≤ 90 := by
    delta Char.isUpper at h
    simpa [UInt32.le_iff_toNat_le, ← Char.toNat_val] using h
  have letter : ¬ c.isDigit = true := by
    intro digit
    have small := value_of_isDigit digit
    have zero : '0'.toNat = 48 := rfl
    omega
  have own : value c = c.toNat - 65 + 10 := by simp [value, letter]
  have first : 'A'.toNat = 65 := rfl
  omega

/-- Every digit is below 36. -/
theorem value_lt {c : Char} (h : IsDigit c) : value c < 36 := by
  rcases h with digit | upper
  · exact Nat.lt_trans (value_of_isDigit digit).1 (by decide)
  · exact (value_of_isUpper upper).2.1

/-- A digit is the one that stands for its value. -/
theorem digit_value {c : Char} (h : IsDigit c) : digit (value c) = c := by
  rcases h with digit | upper
  · obtain ⟨small, number⟩ := value_of_isDigit digit
    rw [Base36.digit, if_pos small, ← number, Char.ofNat_toNat]
  · obtain ⟨large, -, number⟩ := value_of_isUpper upper
    rw [Base36.digit, if_neg (Nat.not_lt.2 large), ← number, Char.ofNat_toNat]

theorem value_ne_zero {c : Char} (h : IsDigit c) (other : c ≠ '0') : value c ≠ 0 := by
  intro none
  have same : digit 0 = c := by
    rw [← none]
    exact digit_value h
  exact other same.symm

/-! ## Numerals -/

theorem digitsBefore_zero (tail : List Char) : digitsBefore 0 tail = tail := by
  rw [digitsBefore, if_pos rfl]

/-- The last digit is written first, in front of the tail. -/
theorem digitsBefore_of_ne_zero {n : Nat} (positive : n ≠ 0) (tail : List Char) :
    digitsBefore n tail = digitsBefore (n / 36) (digit (n % 36) :: tail) := by
  rw [digitsBefore, if_neg positive]

theorem digits_of_ne_zero {n : Nat} (positive : n ≠ 0) : digits n = digitsBefore n [] := by
  rw [digits, if_neg positive]

/-- The number of a numeral, of which the digits in front make `number`. -/
def valueFrom (number : Nat) (numeral : List Char) : Nat :=
  numeral.foldl (fun n c => 36 * n + value c) number

def valueOf (numeral : List Char) : Nat :=
  valueFrom 0 numeral

/-- Reading one more digit undoes writing it. -/
theorem valueFrom_digit (n : Nat) (tail : List Char) :
    valueFrom (n / 36) (digit (n % 36) :: tail) = valueFrom n tail := by
  have last : value (digit (n % 36)) = n % 36 := value_digit (n % 36) (Nat.mod_lt n (by decide))
  calc
    valueFrom (n / 36) (digit (n % 36) :: tail)
        = valueFrom (36 * (n / 36) + value (digit (n % 36))) tail := rfl
    _ = valueFrom (36 * (n / 36) + n % 36) tail := by rw [last]
    _ = valueFrom n tail := by rw [Nat.div_add_mod]

/-- The digits of a number in front of others are read as that number. -/
theorem valueOf_digitsBefore (n : Nat) (tail : List Char) :
    valueOf (digitsBefore n tail) = valueFrom n tail := by
  fun_induction digitsBefore n tail with
  | case1 tail => rfl
  | case2 n tail positive ih => exact ih.trans (valueFrom_digit n tail)

/-- A numeral that was written is read back. -/
theorem valueOf_digits (n : Nat) : valueOf (digits n) = n := by
  by_cases zero : n = 0
  · subst zero
    rfl
  · calc
      valueOf (digits n) = valueOf (digitsBefore n []) := by rw [digits_of_ne_zero zero]
      _ = valueFrom n [] := valueOf_digitsBefore n []
      _ = n := rfl

/-- Different numbers have different numerals. -/
theorem digits_injective : Function.Injective digits := by
  intro m n same
  calc
    m = valueOf (digits m) := (valueOf_digits m).symm
    _ = valueOf (digits n) := by rw [same]
    _ = n := valueOf_digits n

/-- Besides the tail only digits are written. -/
theorem isDigit_of_mem_digitsBefore {n : Nat} {tail : List Char} {c : Char}
    (h : c ∈ digitsBefore n tail) : c ∈ tail ∨ IsDigit c := by
  fun_induction digitsBefore n tail with
  | case1 tail => exact .inl h
  | case2 n tail positive ih =>
    rcases ih h with first | digit
    · rcases List.mem_cons.1 first with rfl | later
      · exact .inr (isDigit_digit (n % 36) (Nat.mod_lt n (by decide)))
      · exact .inl later
    · exact .inr digit

/-- Numerals are made of digits and capital letters. -/
theorem isDigit_of_mem_digits {n : Nat} {c : Char} (h : c ∈ digits n) : IsDigit c := by
  by_cases zero : n = 0
  · subst zero
    rw [List.mem_singleton.1 h]
    exact .inl rfl
  · rw [digits_of_ne_zero zero] at h
    rcases isDigit_of_mem_digitsBefore h with behind | digit
    · cases behind
    · exact digit

/-! ## Written numerals -/

/-- Digits, at least one, and no zero in front of others. -/
def IsNumeral (text : List Char) : Prop :=
  text ≠ [] ∧ (∀ c ∈ text, IsDigit c) ∧ (text.head? = some '0' → text = ['0'])

/-- The first digit of a number is not zero. -/
theorem digitsBefore_starts {n : Nat} (positive : n ≠ 0) (tail : List Char) :
    ∃ first rest, digitsBefore n tail = first :: rest ∧ first ≠ '0' := by
  fun_induction digitsBefore n tail with
  | case1 tail => exact absurd rfl positive
  | case2 n tail _ ih =>
    by_cases last : n / 36 = 0
    · have own : n % 36 = n := Nat.mod_eq_of_lt (by omega)
      rw [last, digitsBefore_zero, own]
      exact ⟨digit n, tail, rfl, digit_ne_zero n (by omega) positive⟩
    · exact ih last

/-- No number but zero is written with a zero in front. -/
theorem head?_digits_eq_zero_iff (n : Nat) : (digits n).head? = some '0' ↔ n = 0 := by
  by_cases zero : n = 0
  · subst zero
    exact iff_of_true rfl rfl
  · obtain ⟨first, rest, written, other⟩ := digitsBefore_starts zero []
    rw [digits_of_ne_zero zero, written]
    simpa [zero] using other

/-- What is written is a numeral. -/
theorem isNumeral_digits (n : Nat) : IsNumeral (digits n) := by
  refine ⟨?_, fun c hc => isDigit_of_mem_digits hc, ?_⟩
  · by_cases zero : n = 0
    · subst zero
      exact List.cons_ne_nil '0' []
    · obtain ⟨first, rest, written, -⟩ := digitsBefore_starts zero []
      rw [digits_of_ne_zero zero, written]
      exact List.cons_ne_nil first rest
  · intro leading
    rw [(head?_digits_eq_zero_iff n).1 leading]
    rfl

/-- The last digit of a number comes first in writing. -/
theorem digitsBefore_push {n : Nat} {c : Char} (h : IsDigit c) (positive : 36 * n + value c ≠ 0)
    (tail : List Char) : digitsBefore (36 * n + value c) tail = digitsBefore n (c :: tail) := by
  have small := value_lt h
  have front : (36 * n + value c) / 36 = n := by omega
  have last : (36 * n + value c) % 36 = value c := by omega
  rw [digitsBefore_of_ne_zero positive, front, last, digit_value h]

/-- Digits read behind a number are written again behind it. -/
theorem digitsBefore_valueFrom {n : Nat} (positive : n ≠ 0) {text : List Char}
    (written : ∀ c ∈ text, IsDigit c) (tail : List Char) :
    digitsBefore (valueFrom n text) tail = digitsBefore n (text ++ tail) := by
  induction text generalizing n with
  | nil => rfl
  | cons c rest ih =>
    have more : 36 * n + value c ≠ 0 := by omega
    calc
      digitsBefore (valueFrom n (c :: rest)) tail
          = digitsBefore (36 * n + value c) (rest ++ tail) :=
        ih more fun d hd => written d (List.mem_cons_of_mem c hd)
      _ = digitsBefore n (c :: rest ++ tail) := digitsBefore_push (written c List.mem_cons_self) more _

theorem valueOf_cons (c : Char) (rest : List Char) : valueOf (c :: rest) = valueFrom (value c) rest := by
  simp [valueOf, valueFrom]

/-- A numeral that was read is written again. -/
theorem digits_valueOf {text : List Char} (h : IsNumeral text) : digits (valueOf text) = text := by
  obtain ⟨some, written, leading⟩ := h
  cases text with
  | nil => exact absurd rfl some
  | cons c rest =>
    by_cases zero : c = '0'
    · subst zero
      rw [leading rfl]
      rfl
    · have here : IsDigit c := written c List.mem_cons_self
      -- A first digit other than zero makes every number on the way positive, so that writing does not stop
      -- early.
      have positive : value c ≠ 0 := value_ne_zero here zero
      have whole : digitsBefore (valueOf (c :: rest)) [] = c :: rest := by
        calc
          digitsBefore (valueOf (c :: rest)) []
              = digitsBefore (valueFrom (value c) rest) [] := by rw [valueOf_cons]
          _ = digitsBefore (value c) (rest ++ []) :=
            digitsBefore_valueFrom positive (fun d hd => written d (List.mem_cons_of_mem c hd)) []
          _ = digitsBefore (36 * 0 + value c) rest := by simp
          _ = digitsBefore 0 (c :: rest) := digitsBefore_push here (by simpa using positive) rest
          _ = c :: rest := digitsBefore_zero (c :: rest)
      have nonzero : valueOf (c :: rest) ≠ 0 := by
        intro none
        rw [none, digitsBefore_zero] at whole
        cases whole
      rw [digits_of_ne_zero nonzero, whole]

/-- A numeral is read as the number it was written for, and it is the only numeral that is. It is made of digits
and capital letters, and begins with a zero only if it stands for zero. So different numbers have different
numerals, also behind one text. -/
theorem numeral_stands_for_one_number (n : Nat) :
    (∀ c ∈ (numeral n).toList, IsDigit c) ∧
    ((numeral n).toList.head? = some '0' ↔ n = 0) ∧
    valueOf (numeral n).toList = n ∧
    (∀ text, IsNumeral text ∧ valueOf text = n ↔ text = (numeral n).toList) ∧
    (∀ other, numeral other = numeral n → other = n) ∧
    (∀ (base : List Char) (other : Nat),
      base ++ '_' :: digits other = base ++ '_' :: digits n → other = n) := by
  have spelled : (numeral n).toList = digits n := String.toList_ofList
  rw [spelled]
  refine ⟨fun c hc => isDigit_of_mem_digits hc, head?_digits_eq_zero_iff n, valueOf_digits n, ?_, ?_, ?_⟩
  · intro text
    constructor
    · rintro ⟨isNumeral, rfl⟩
      exact (digits_valueOf isNumeral).symm
    · rintro rfl
      exact ⟨isNumeral_digits n, valueOf_digits n⟩
  · intro other same
    exact digits_injective (String.ofList_injective same)
  · intro base other same
    -- The mark between base and number stands in the same place of both.
    have suffixes : '_' :: digits other = '_' :: digits n := List.append_cancel_left same
    exact digits_injective (List.cons.inj suffixes).2

example : numeral 46655 = "ZZZ" ∧ numeral 46656 = "1000" := by
  decide +kernel

end Base36
end StoryLoom
