/-
This file proves that the shortest decimals of two binary numbers are equal in value only where the
numbers are equal up to their sign. A decimal that reads back as a number lies between the midpoints
to the neighbours of the number.
-/

import Mathlib.Algebra.Order.Field.Power
import Mathlib.Data.Rat.Cast.Order
import Mathlib.Tactic.FieldSimp
import Mathlib.Tactic.GCongr
import Mathlib.Tactic.Linarith
import Mathlib.Tactic.NormNum
import Mathlib.Tactic.Positivity
import Mathlib.Tactic.Ring
import NetworkAutomation.Decimal.Shortest

namespace NetworkAutomation.Decimal

/-! ## Quotients as rational numbers -/

namespace Quotient

def value (quotient : Quotient) : ℚ :=
  quotient.numerator / quotient.denominator

theorem scale_denominator_pos {quotient : Quotient} (proper : 0 < quotient.denominator)
    {base : Nat} (positive : 0 < base) (power : Int) :
    0 < (quotient.scale base power).denominator := by
  unfold scale
  split
  · exact Nat.mul_pos proper (Nat.pow_pos positive)
  · exact proper

theorem scale_value (quotient : Quotient) {base : Nat} (positive : 0 < base) (power : Int) :
    (quotient.scale base power).value = quotient.value * (base : ℚ) ^ power := by
  have nonzero : (base : ℚ) ≠ 0 := Nat.cast_ne_zero.mpr positive.ne'
  unfold scale value
  split
  next negative =>
    have negated : power = -(power.natAbs : Int) := by omega
    generalize power.natAbs = count at negated
    subst negated
    simp only [Nat.pow_eq, zpow_neg, zpow_natCast]
    push_cast
    rw [div_mul_eq_div_div, div_eq_mul_inv _ ((base : ℚ) ^ count)]
  next other =>
    have same : power = (power.natAbs : Int) := by omega
    generalize power.natAbs = count at same
    subst same
    simp only [Nat.pow_eq, zpow_natCast]
    push_cast
    rw [mul_div_right_comm]

theorem atMost_iff {left right : Quotient} (leftProper : 0 < left.denominator)
    (rightProper : 0 < right.denominator) :
    left.atMost right = true ↔ left.value ≤ right.value := by
  have leftPositive : (0 : ℚ) < left.denominator := Nat.cast_pos.mpr leftProper
  have rightPositive : (0 : ℚ) < right.denominator := Nat.cast_pos.mpr rightProper
  rw [value, value, div_le_div_iff₀ leftPositive rightPositive, atMost, decide_eq_true_eq]
  norm_cast

theorem less_iff {left right : Quotient} (leftProper : 0 < left.denominator)
    (rightProper : 0 < right.denominator) :
    left.less right = true ↔ left.value < right.value := by
  have leftPositive : (0 : ℚ) < left.denominator := Nat.cast_pos.mpr leftProper
  have rightPositive : (0 : ℚ) < right.denominator := Nat.cast_pos.mpr rightProper
  rw [value, value, div_lt_div_iff₀ leftPositive rightPositive, less, decide_eq_true_eq]
  norm_cast

theorem nearest_cases (quotient : Quotient) :
    quotient.nearest = quotient.wholePart ∨ quotient.nearest = quotient.wholePart + 1 := by
  unfold nearest wholePart
  simp only
  split
  · exact .inl rfl
  · split
    · exact .inr rfl
    · omega

end Quotient

/-! ## The values of bit patterns -/

def significandOf (magnitude : Nat) : Nat :=
  if magnitude < Nat.pow 2 52 then magnitude
  else magnitude % Nat.pow 2 52 + Nat.pow 2 52

def exponentOf (magnitude : Nat) : Int :=
  if magnitude < Nat.pow 2 52 then -1074
  else (magnitude / Nat.pow 2 52 : Nat) - 1075

/-- The next pattern has the next significand, or the least one of the next exponent. -/
theorem successor_cases (magnitude : Nat) :
    (significandOf (magnitude + 1) = significandOf magnitude + 1 ∧
      exponentOf (magnitude + 1) = exponentOf magnitude) ∨
    (significandOf (magnitude + 1) = Nat.pow 2 52 ∧
      significandOf magnitude + 1 = 2 * Nat.pow 2 52 ∧
      exponentOf (magnitude + 1) = exponentOf magnitude + 1) := by
  have width : Nat.pow 2 52 = 4503599627370496 := rfl
  unfold significandOf exponentOf
  rw [width]
  split <;> split <;> omega

/-- This is the number that a bit pattern without a sign stands for. -/
def absoluteValue (magnitude : Nat) : ℚ :=
  significandOf magnitude * 2 ^ exponentOf magnitude

/-- Neighbours are one unit of the last place apart. -/
theorem absoluteValue_succ (magnitude : Nat) :
    absoluteValue (magnitude + 1) = absoluteValue magnitude + 2 ^ exponentOf magnitude := by
  unfold absoluteValue
  rcases successor_cases magnitude with ⟨next, same⟩ | ⟨least, greatest, carried⟩
  · rw [next, same]
    push_cast
    ring
  · have last : (significandOf magnitude : ℚ) + 1 = 2 * (Nat.pow 2 52 : Nat) := by
      exact_mod_cast greatest
    rw [least, carried, zpow_add_one₀ two_ne_zero, ← mul_assoc, mul_right_comm, mul_comm _ (2 : ℚ),
      ← last]
    ring

theorem absoluteValue_strictMono : StrictMono absoluteValue := by
  apply strictMono_nat_of_lt_succ
  intro magnitude
  rw [absoluteValue_succ]
  have unit : (0 : ℚ) < 2 ^ exponentOf magnitude := zpow_pos two_pos _
  linarith

theorem absoluteValue_zero : absoluteValue 0 = 0 := by
  simp [absoluteValue, significandOf]

/-- Quotients above the midpoint are nearer to the next number. -/
def midpoint (magnitude : Nat) : ℚ :=
  (absoluteValue magnitude + absoluteValue (magnitude + 1)) / 2

theorem midpoint_strictMono : StrictMono midpoint := by
  intro left right before
  have lower := absoluteValue_strictMono before
  have upper := absoluteValue_strictMono (Nat.succ_lt_succ before)
  unfold midpoint
  linarith

theorem absoluteValue_lt_midpoint (magnitude : Nat) :
    absoluteValue magnitude < midpoint magnitude := by
  have step := absoluteValue_strictMono (Nat.lt_succ_self magnitude)
  unfold midpoint
  linarith

theorem midpoint_lt_absoluteValue (magnitude : Nat) :
    midpoint magnitude < absoluteValue (magnitude + 1) := by
  have step := absoluteValue_strictMono (Nat.lt_succ_self magnitude)
  unfold midpoint
  linarith

/-! ## The quotients that read back -/

namespace Binary

variable {value : Binary}

theorem significand_mod_two (value : Binary) : value.significand % 2 = value.magnitude % 2 := by
  have width : Nat.pow 2 52 = 4503599627370496 := rfl
  unfold significand
  rw [width]
  split <;> omega

theorem upperBound_value (value : Binary) : value.upperBound.value = midpoint value.magnitude := by
  rw [upperBound, Quotient.scale_value _ two_pos, midpoint, absoluteValue_succ, absoluteValue]
  change ((4 * significandOf value.magnitude + 2 : Nat) : ℚ) / (1 : Nat) *
    (2 : Nat) ^ (exponentOf value.magnitude - 2) = _
  push_cast
  rw [zpow_sub₀ two_ne_zero]
  ring

/-- Only where the number starts a new exponent is the lower neighbour half as far away. -/
theorem lowerBound_value {magnitude : Nat} (next : value.magnitude = magnitude + 1) :
    value.lowerBound.value = midpoint magnitude := by
  have width : Nat.pow 2 52 = 4503599627370496 := rfl
  rw [lowerBound, Quotient.scale_value _ two_pos, midpoint, absoluteValue_succ, absoluteValue]
  change ((4 * significandOf value.magnitude - value.lowerQuarters : Nat) : ℚ) / (1 : Nat) *
    (2 : Nat) ^ (exponentOf value.magnitude - 2) = _
  have quarters : value.lowerQuarters =
      if significandOf value.magnitude = Nat.pow 2 52 ∧ -1074 < exponentOf value.magnitude then 1
      else 2 := rfl
  rw [next] at quarters ⊢
  have unit : (2 : ℚ) ^ (2 : Int) = 4 := by norm_num
  rcases successor_cases magnitude with ⟨above, same⟩ | ⟨least, greatest, carried⟩
  · have two : value.lowerQuarters = 2 := by
      rw [quarters, if_neg]
      unfold significandOf exponentOf at *
      rw [width] at *
      split_ifs at * <;> omega
    have digits : 4 * significandOf (magnitude + 1) - 2 = 4 * significandOf magnitude + 2 := by
      omega
    rw [two, digits, same]
    push_cast
    rw [zpow_sub₀ two_ne_zero, unit]
    ring
  · have one : value.lowerQuarters = 1 := by
      rw [quarters, if_pos]
      refine ⟨least, ?_⟩
      rw [carried]
      unfold exponentOf
      rw [width]
      split <;> omega
    have digits : 4 * significandOf (magnitude + 1) - 1 = 2 * significandOf magnitude + 1 := by
      omega
    rw [one, digits, carried, show exponentOf magnitude + 1 - 2 = exponentOf magnitude - 1 by ring]
    push_cast
    rw [zpow_sub_one₀ two_ne_zero]
    ring

/-- A number reads back as the binary number inside its bounds, or on them for an even one. -/
def Reads (value : Binary) (number : ℚ) : Prop :=
  if value.significand % 2 = 0 then
    value.lowerBound.value ≤ number ∧ number ≤ value.upperBound.value
  else value.lowerBound.value < number ∧ number < value.upperBound.value

theorem admits_iff {quotient : Quotient} (proper : 0 < quotient.denominator) :
    value.admits quotient = true ↔ value.Reads quotient.value := by
  have lower : 0 < value.lowerBound.denominator :=
    Quotient.scale_denominator_pos one_pos two_pos _
  have upper : 0 < value.upperBound.denominator :=
    Quotient.scale_denominator_pos one_pos two_pos _
  unfold admits Reads
  split
  · rw [Bool.and_eq_true, Quotient.atMost_iff lower proper, Quotient.atMost_iff proper upper]
  · rw [Bool.and_eq_true, Quotient.less_iff lower proper, Quotient.less_iff proper upper]

namespace Reads

variable {number : ℚ}

theorem bounds (reads : value.Reads number) :
    value.lowerBound.value ≤ number ∧ number ≤ value.upperBound.value := by
  unfold Reads at reads
  split at reads
  · exact reads
  · exact ⟨reads.1.le, reads.2.le⟩

theorem of_inside (lower : value.lowerBound.value < number)
    (upper : number < value.upperBound.value) : value.Reads number := by
  unfold Reads
  split
  · exact ⟨lower.le, upper.le⟩
  · exact ⟨lower, upper⟩

theorem even_of_upper (reads : value.Reads number) (on : number = value.upperBound.value) :
    value.magnitude % 2 = 0 := by
  rw [← value.significand_mod_two]
  by_contra odd
  rw [Reads, if_neg odd] at reads
  exact absurd on reads.2.ne

theorem even_of_lower (reads : value.Reads number) (on : number = value.lowerBound.value) :
    value.magnitude % 2 = 0 := by
  rw [← value.significand_mod_two]
  by_contra odd
  rw [Reads, if_neg odd] at reads
  exact absurd on reads.1.ne'

/-- Two neighbours share a midpoint, and it reads back as the even one alone. -/
theorem not_lt {other : Binary} (reads : value.Reads number) (again : other.Reads number) :
    ¬ value.magnitude < other.magnitude := by
  intro before
  obtain ⟨below, next⟩ : ∃ below, other.magnitude = below + 1 :=
    ⟨other.magnitude - 1, by omega⟩
  have upper := reads.bounds.2
  have lower := again.bounds.1
  rw [upperBound_value] at upper
  rw [lowerBound_value next] at lower
  have least : value.magnitude ≤ below := by omega
  have same : value.magnitude = below := by
    apply Nat.le_antisymm least
    apply midpoint_strictMono.le_iff_le.mp
    exact lower.trans upper
  have shared : number = midpoint below := by
    apply le_antisymm _ lower
    rw [← same]
    exact upper
  have leftEven := reads.even_of_upper (by rw [upperBound_value, same, shared])
  have rightEven := again.even_of_lower (by rw [lowerBound_value next, shared])
  omega

theorem magnitude_eq {other : Binary} (reads : value.Reads number) (again : other.Reads number) :
    value.magnitude = other.magnitude := by
  have notBefore := reads.not_lt again
  have notBehind := again.not_lt reads
  omega

theorem pos (reads : value.Reads number) (nonzero : value.magnitude ≠ 0) : 0 < number := by
  obtain ⟨below, next⟩ := Nat.exists_eq_succ_of_ne_zero nonzero
  calc (0 : ℚ) = absoluteValue 0 := absoluteValue_zero.symm
    _ ≤ absoluteValue below := absoluteValue_strictMono.monotone (Nat.zero_le below)
    _ < midpoint below := absoluteValue_lt_midpoint below
    _ = value.lowerBound.value := (lowerBound_value next).symm
    _ ≤ number := reads.bounds.1

theorem absoluteValue (nonzero : value.magnitude ≠ 0) :
    value.Reads (absoluteValue value.magnitude) := by
  obtain ⟨below, next⟩ := Nat.exists_eq_succ_of_ne_zero nonzero
  apply of_inside
  · rw [lowerBound_value next, next]
    exact midpoint_lt_absoluteValue below
  · rw [upperBound_value]
    exact absoluteValue_lt_midpoint value.magnitude

end Reads

end Binary

/-! ## The shortest decimals -/

def Scaled.value (decimal : Scaled) : ℚ :=
  decimal.digits * 10 ^ decimal.power

theorem Scaled.toQuotient_value (decimal : Scaled) : decimal.toQuotient.value = decimal.value := by
  rw [toQuotient, Quotient.scale_value _ (by decide)]
  simp [Quotient.value, value]

namespace Binary

variable {value : Binary}

theorem admits_decimal_iff {decimal : Scaled} :
    value.admits decimal.toQuotient = true ↔ value.Reads decimal.value := by
  rw [← decimal.toQuotient_value]
  exact admits_iff (Quotient.scale_denominator_pos one_pos (by decide) _)

theorem onGrid?_reads {log : Int} {count : Nat} {decimal : Scaled}
    (found : value.onGrid? log count = some decimal) : value.Reads decimal.value := by
  unfold onGrid? at found
  simp only at found
  split at found
  next below above =>
    obtain rfl := Option.some.inj found
    rw [admits_decimal_iff] at below above
    rcases Quotient.nearest_cases (value.toQuotient.scale 10 (-(log - count + 1)))
      with nearest | nearest
    · rw [nearest]
      exact below
    · rw [nearest]
      exact above
  next below above =>
    obtain rfl := Option.some.inj found
    exact admits_decimal_iff.mp below
  next below above =>
    obtain rfl := Option.some.inj found
    exact admits_decimal_iff.mp above
  next => contradiction

theorem searchGrids_reads {log : Int} {count remaining : Nat} {decimal : Scaled}
    (found : value.searchGrids log count remaining = some decimal) :
    value.Reads decimal.value := by
  induction remaining generalizing count with
  | zero => contradiction
  | succ remaining inductionHypothesis =>
      unfold searchGrids at found
      split at found
      next first =>
        obtain rfl := Option.some.inj found
        exact onGrid?_reads first
      next => exact inductionHypothesis found

theorem exactDecimal_value (value : Binary) :
    value.exactDecimal.value = absoluteValue value.magnitude := by
  change _ = (value.significand : ℚ) * 2 ^ value.exponent
  unfold exactDecimal Scaled.value
  split
  next negative =>
    have negated : value.exponent = -(value.exponent.natAbs : Int) := by omega
    generalize value.exponent.natAbs = count at negated
    rw [negated]
    simp only [Nat.pow_eq, zpow_neg, zpow_natCast]
    push_cast
    rw [show (10 : ℚ) = 5 * 2 by norm_num, mul_pow]
    field_simp
  next other =>
    have same : value.exponent = (value.exponent.natAbs : Int) := by omega
    generalize value.exponent.natAbs = count at same
    rw [same]
    simp

theorem dropTrailingZeros_value (decimal : Scaled) (remaining : Nat) :
    (dropTrailingZeros decimal remaining).value = decimal.value := by
  induction remaining generalizing decimal with
  | zero => rfl
  | succ remaining inductionHypothesis =>
      unfold dropTrailingZeros
      split
      next zero =>
        rw [inductionHypothesis]
        obtain ⟨tenth, digits⟩ := Nat.dvd_of_mod_eq_zero zero
        simp only [Scaled.value, digits, Nat.mul_div_cancel_left tenth (by decide : 0 < 10)]
        rw [zpow_add_one₀ (by norm_num)]
        push_cast
        ring
      next => rfl

theorem shortest_reads (nonzero : value.magnitude ≠ 0) : value.Reads value.shortest.value := by
  rw [shortest, if_neg (by simpa [isZero] using nonzero)]
  simp only
  rw [dropTrailingZeros_value]
  cases found : value.searchGrids (floorLog10 value.toQuotient) 1 17 with
  | some decimal => exact searchGrids_reads found
  | none =>
      rw [Option.getD_none, exactDecimal_value]
      exact Reads.absoluteValue nonzero

theorem shortest_value_of_zero (zero : value.magnitude = 0) : value.shortest.value = 0 := by
  rw [shortest, if_pos (by simp [isZero, zero])]
  simp [Scaled.value]

theorem magnitude_eq_of_shortest {other : Binary}
    (same : value.shortest.value = other.shortest.value) : value.magnitude = other.magnitude := by
  by_cases zero : value.magnitude = 0
  · by_cases otherZero : other.magnitude = 0
    · rw [zero, otherZero]
    · have positive := (shortest_reads otherZero).pos otherZero
      rw [← same, shortest_value_of_zero zero] at positive
      exact absurd positive (lt_irrefl 0)
  · by_cases otherZero : other.magnitude = 0
    · have positive := (shortest_reads zero).pos zero
      rw [same, shortest_value_of_zero otherZero] at positive
      exact absurd positive (lt_irrefl 0)
    · have reads := shortest_reads zero
      rw [same] at reads
      exact reads.magnitude_eq (shortest_reads otherZero)

end Binary

end NetworkAutomation.Decimal
