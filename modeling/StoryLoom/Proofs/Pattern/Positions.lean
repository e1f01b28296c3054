import Mathlib.Algebra.Group.Nat.Defs
import Mathlib.Logic.Relation
import StoryLoom.Pattern.Route

/-!
# Positions — what the members of sets of positions are

- `testBit_single`, `testBit_upTo`, `testBit_ofBits` : the sets that a search begins with
- `testBit_glide_zero`, `testBit_glide_succ`         : adding places carries a start to the next place
- `testBit_gather`                                   : the union of what members reach
- `getElem?_neighbours`                              : what a predicate says of each position
-/

namespace StoryLoom
namespace Pattern

/-- The character before a position, if there is one. -/
def before? (text : List Char) : Nat → Option Char
  | 0 => none
  | i + 1 => text[i]?

namespace PosSet

variable {s t : PosSet} {i j p n : Nat}

/-! ## Bits of numbers -/

theorem testBit_single : (single p).testBit i = true ↔ i = p := by
  rw [single, Nat.one_shiftLeft, Nat.testBit_two_pow]
  simp [eq_comm]

theorem testBit_upTo : (upTo n).testBit i = true ↔ i ≤ n := by
  rw [upTo, Nat.one_shiftLeft, Nat.testBit_two_pow_sub_one, decide_eq_true_iff, Nat.lt_succ_iff]

/-- Taking away the members shared with another set leaves those that the other set has not. -/
theorem testBit_sub_and (s t i : Nat) :
    (s - (s &&& t)).testBit i = (s.testBit i && !t.testBit i) := by
  have low : (s &&& t) % 2 = 1 ↔ s % 2 = 1 ∧ t % 2 = 1 := Nat.and_mod_two_eq_one
  have half : (s &&& t) / 2 = s / 2 &&& t / 2 := Nat.and_div_two
  have le : s &&& t ≤ s := Nat.and_le_left
  induction i generalizing s t with
  | zero =>
    rw [Nat.testBit_zero, Nat.testBit_zero, Nat.testBit_zero, ← decide_not, ← Bool.decide_and]
    exact decide_eq_decide.2 (by omega)
  | succ i ih =>
    have le' : s / 2 &&& t / 2 ≤ s / 2 := Nat.and_le_left
    have below : (s - (s &&& t)) / 2 = s / 2 - (s / 2 &&& t / 2) := by omega
    simp only [Nat.testBit_succ]
    rw [below]
    exact ih _ _ Nat.and_mod_two_eq_one Nat.and_div_two le'

/-- What is left of a set without its members above the lowest is the set of the lowest. -/
theorem exists_lowest {s : Nat} (some : s ≠ 0) :
    ∃ p, s - (s &&& (s - 1)) = 1 <<< p ∧ s.testBit p = true ∧ ∀ i, s.testBit i = true → p ≤ i := by
  induction s using Nat.strongRecOn with
  | ind s ih =>
    have low : (s &&& (s - 1)) % 2 = 1 ↔ s % 2 = 1 ∧ (s - 1) % 2 = 1 := Nat.and_mod_two_eq_one
    have half : (s &&& (s - 1)) / 2 = s / 2 &&& (s - 1) / 2 := Nat.and_div_two
    -- The lowest bit of an even number is one place above that of its half, that of an odd number is the
    -- first.
    rcases Nat.mod_two_eq_zero_or_one s with even | odd
    · obtain ⟨p, here, bit, least⟩ := ih (s / 2) (by omega) (by omega)
      have before : (s - 1) / 2 = s / 2 - 1 := by omega
      rw [before] at half
      refine ⟨p + 1, ?_, (Nat.testBit_succ s p).trans bit, ?_⟩
      · have le : s / 2 &&& (s / 2 - 1) ≤ s / 2 := Nat.and_le_left
        rw [Nat.one_shiftLeft] at here ⊢
        rw [Nat.pow_succ]
        omega
      · intro i hi
        cases i with
        | zero =>
          rw [Nat.testBit_zero, even] at hi
          cases hi
        | succ i => exact Nat.succ_le_succ (least i ((Nat.testBit_succ s i).symm.trans hi))
    · have before : (s - 1) / 2 = s / 2 := by omega
      rw [before, Nat.and_self] at half
      refine ⟨0, ?_, ?_, fun i _ => Nat.zero_le i⟩
      · rw [Nat.one_shiftLeft, Nat.pow_zero]
        omega
      · rw [Nat.testBit_zero, odd]
        rfl

/-! ## Unions -/

/-- The union of what members reach. Members that another one reaches add nothing to it. -/
theorem testBit_gather {reached : Nat → PosSet} {room : Nat} (lo : Nat)
    (inside : ∀ i, s.testBit i = true → lo ≤ i ∧ i < lo + room)
    (further : ∀ p q j, s.testBit p = true → s.testBit q = true → (reached p).testBit q = true →
      (reached q).testBit j = true → (reached p).testBit j = true) :
    (gather reached room s).testBit j = true ↔
      ∃ p, s.testBit p = true ∧ (reached p).testBit j = true := by
  induction room generalizing s lo with
  | zero =>
    rw [gather, Nat.zero_testBit]
    constructor
    · intro none
      cases none
    · rintro ⟨p, hp, -⟩
      have := inside p hp
      omega
  | succ room ih =>
    by_cases empty : s = 0
    · subst empty
      simp [gather]
    obtain ⟨p, lowest, bit, least⟩ := exists_lowest empty
    have place : (1 <<< p).log2 = p := by rw [Nat.one_shiftLeft, Nat.log2_two_pow]
    rw [gather, if_neg empty, lowest]
    simp only [place]
    -- What is left to gather lies behind the lowest member.
    have left : ∀ i, (s - (s &&& (reached p ||| 1 <<< p))).testBit i = true ↔
        s.testBit i = true ∧ (reached p).testBit i = false ∧ i ≠ p := by
      intro i
      rw [testBit_sub_and, Nat.testBit_or, Nat.one_shiftLeft, Nat.testBit_two_pow]
      simp [ne_comm]
    rw [Nat.testBit_or, Bool.or_eq_true, ih (p + 1)]
    · constructor
      · rintro (first | ⟨q, hq, later⟩)
        · exact ⟨p, bit, first⟩
        · exact ⟨q, ((left q).1 hq).1, later⟩
      · rintro ⟨q, hq, later⟩
        by_cases done : (reached p).testBit q = true
        · exact .inl (further p q j bit hq done later)
        · by_cases same : q = p
          · subst same
            exact .inl later
          · exact .inr ⟨q, (left q).2 ⟨hq, Bool.eq_false_iff.2 done, same⟩, later⟩
    · intro i hi
      obtain ⟨mem, -, other⟩ := (left i).1 hi
      have above := least i mem
      have := inside i mem
      have := inside p bit
      omega
    · intro q r j hq hr
      exact further q r j ((left q).1 hq).1 ((left r).1 hr).1

/-! ## Gliding -/

section Glide

variable {places starts : PosSet}

/-- A member of a glide is a start, or the carry from the places before it reaches it. -/
theorem testBit_glide {w : Nat} (h : j < w) :
    (glide places starts).testBit j = (starts.testBit j ||
      BitVec.carry j (BitVec.ofNat w (starts &&& places)) (BitVec.ofNat w places) false) := by
  have sum := BitVec.getLsbD_add h (BitVec.ofNat w (starts &&& places)) (BitVec.ofNat w places)
  rw [← BitVec.ofNat_add] at sum
  simp only [BitVec.getLsbD_ofNat, h, decide_true, Bool.true_and, Nat.testBit_and] at sum
  rw [glide, Nat.testBit_or, Nat.testBit_xor, sum]
  cases starts.testBit j <;> cases places.testBit j <;> simp

/-- The first position is where it was. -/
theorem testBit_glide_zero : (glide places starts).testBit 0 = starts.testBit 0 := by
  rw [testBit_glide Nat.one_pos, BitVec.carry_zero, Bool.or_false]

/-- A glide goes on from a member that is a place. -/
theorem testBit_glide_succ : (glide places starts).testBit (j + 1) =
    (starts.testBit (j + 1) || (places.testBit j && (glide places starts).testBit j)) := by
  rw [testBit_glide (Nat.lt_succ_self (j + 1)), testBit_glide (Nat.lt_succ_of_lt (Nat.lt_succ_self j)),
    BitVec.carry_succ]
  have inside : j < j + 1 + 1 := by omega
  simp only [BitVec.getLsbD_ofNat, inside, decide_true, Bool.true_and, Nat.testBit_and]
  cases starts.testBit j <;> cases places.testBit j <;> simp [Bool.atLeastTwo]

end Glide

/-! ## Bits in a row -/

/-- A bit with its weight added to the sum of the bits before it. -/
theorem testBit_weighted {w sum : Nat} (b : Bool) (below : sum < 2 ^ w) :
    (2 ^ w * b.toNat + sum).testBit i =
      if i < w then sum.testBit i else if i = w then b else false := by
  rw [Nat.testBit_two_pow_mul_add _ below]
  split
  · rfl
  · rename_i high
    split
    · rename_i here
      subst here
      cases b <;> simp
    · obtain ⟨k, rfl⟩ : ∃ k, i = w + k + 1 := ⟨i - w - 1, by omega⟩
      cases b <;> simp [Nat.add_assoc, Nat.testBit_succ]

/-- Thirty-two bits at a time, the list becomes a number. -/
theorem testBit_ofBitsFrom (w sum : Nat) (bits : List Bool) (small : w < 32) (below : sum < 2 ^ w) :
    (ofBitsFrom (2 ^ w) sum bits).testBit i =
      if i < w then sum.testBit i else bits[i - w]?.getD false := by
  induction bits generalizing w sum i with
  | nil =>
    rw [ofBitsFrom]
    split
    · rfl
    · have high : 2 ^ w ≤ 2 ^ i := Nat.pow_le_pow_right Nat.two_pos (by omega)
      rw [Nat.testBit_lt_two_pow (Nat.lt_of_lt_of_le below high)]
      rfl
  | cons b rest ih =>
    have next : (if b then sum + 2 ^ w else sum) = 2 ^ w * b.toNat + sum := by
      cases b <;> simp [Nat.add_comm]
    have bound : 2 ^ w * b.toNat + sum < 2 ^ (w + 1) := by
      have := Nat.mul_le_mul_left (2 ^ w) b.toNat_le
      rw [Nat.pow_succ]
      omega
    -- The bits up to this one are in the sum, the others are still to come.
    have split : (if i < w + 1 then (2 ^ w * b.toNat + sum).testBit i
        else rest[i - (w + 1)]?.getD false) =
        if i < w then sum.testBit i else (b :: rest)[i - w]?.getD false := by
      rw [testBit_weighted b below]
      rcases Nat.lt_trichotomy i w with lower | rfl | higher
      · rw [if_pos (by omega), if_pos lower, if_pos lower]
      · simp
      · obtain ⟨k, rfl⟩ : ∃ k, i = w + 1 + k := ⟨i - w - 1, by omega⟩
        rw [if_neg (by omega), if_neg (by omega), Nat.add_sub_cancel_left,
          show w + 1 + k - w = k + 1 by omega, List.getElem?_cons_succ]
    rw [ofBitsFrom, next, ← split]
    by_cases full : w = 31
    · subst full
      rw [if_pos (Nat.one_shiftLeft 31).symm, Nat.add_comm, Nat.shiftLeft_eq, Nat.mul_comm,
        Nat.testBit_two_pow_mul_add _ bound]
      split
      · rfl
      · exact ih 0 0 (by omega) (by omega)
    · have other : ¬ 2 ^ w = 1 <<< 31 := by
        rw [Nat.one_shiftLeft]
        exact Nat.ne_of_lt (Nat.pow_lt_pow_right Nat.one_lt_two (by omega))
      rw [if_neg other, ← Nat.pow_succ']
      exact ih _ _ (by omega) bound

/-- The number has the bits of the list. -/
theorem testBit_ofBits (bits : List Bool) : (ofBits bits).testBit i = bits[i]?.getD false := by
  have start := testBit_ofBitsFrom (i := i) 0 0 bits (by omega) (by omega)
  rw [if_neg (Nat.not_lt_zero i)] at start
  exact start

/-! ## Neighbours -/

/-- Each position sees the character before it and the one behind. -/
theorem getElem?_neighbours (holds : Option Char → Option Char → Bool) (first : Option Char)
    (text : List Char) (h : i ≤ text.length) :
    (neighbours holds first text)[i]? =
      some (holds (if i = 0 then first else before? text i) text[i]?) := by
  induction text generalizing first i with
  | nil =>
    obtain rfl : i = 0 := by simpa using h
    rfl
  | cons c rest ih =>
    cases i with
    | zero => rfl
    | succ i =>
      rw [neighbours, List.getElem?_cons_succ, ih (some c) (Nat.le_of_succ_le_succ h)]
      cases i <;> simp [before?]

end PosSet
end Pattern
end StoryLoom
