/-
This file proves that numbers are told apart by their texts. Integer text reads back, and the text
of a binary number spells its shortest decimal.
-/

import NetworkAutomation.Document.Printer
import NetworkAutomation.Proofs.ShortestDecimals

namespace NetworkAutomation

/-! ## Integers -/

namespace Text

def Digits (characters : List Char) : Prop :=
  ∀ character ∈ characters, character.isDigit = true

theorem digits_naturalCharacters (value : Nat) : Digits (naturalCharacters value) := by
  intro character member
  exact Nat.isDigit_of_mem_toDigits (by decide) (by decide) member

theorem digitValue?_of_isDigit {character : Char} (digit : character.isDigit = true) :
    digitValue? character = some (character.toNat - '0'.toNat) := by
  unfold digitValue?
  rw [if_pos]
  · rfl
  · exact Char.isDigit_iff_toNat.mp digit

theorem digitsFrom?_eq {characters : List Char} (digits : Digits characters) (value : Nat) :
    digitsFrom? value characters = some (Nat.ofDigitChars 10 characters value) := by
  induction characters generalizing value with
  | nil => rfl
  | cons first rest inductionHypothesis =>
      have firstDigit := digits first List.mem_cons_self
      have restDigits : Digits rest := fun character member =>
        digits character (List.mem_cons_of_mem first member)
      rw [digitsFrom?, digitValue?_of_isDigit firstDigit, Nat.ofDigitChars_cons]
      exact inductionHypothesis restDigits _

theorem natural?_naturalCharacters (value : Nat) :
    natural? (naturalCharacters value) = some value := by
  have read := digitsFrom?_eq (digits_naturalCharacters value) 0
  rw [naturalCharacters, Nat.ofDigitChars_ten_toDigits] at read
  rw [natural?, naturalCharacters]
  · exact read
  · exact Nat.toDigits_ne_nil

/-- A digit stands first, so no sign is read. -/
theorem integer?_naturalCharacters (value : Nat) :
    integer? (naturalCharacters value) = some (value : Int) := by
  have digits := digits_naturalCharacters value
  rw [integer?, natural?_naturalCharacters]
  · rfl
  · intro rest signed
    rw [signed] at digits
    exact absurd (digits '+' List.mem_cons_self) (by decide)
  · intro rest signed
    rw [signed] at digits
    exact absurd (digits '-' List.mem_cons_self) (by decide)

theorem integer?_integerCharacters (value : Int) :
    integer? (integerCharacters value) = some value := by
  cases value with
  | ofNat value => exact integer?_naturalCharacters value
  | negSucc value =>
      rw [integerCharacters, integer?, natural?_naturalCharacters]
      rfl

theorem integerCharacters_injective : Function.Injective integerCharacters := by
  intro left right same
  have read := integer?_integerCharacters left
  rw [same, integer?_integerCharacters right] at read
  exact (Option.some.inj read).symm

/-- Integer text has neither a point nor the mark of an exponent. -/
theorem isDigit_or_minus_of_mem {value : Int} {character : Char}
    (member : character ∈ integerCharacters value) :
    character.isDigit = true ∨ character = '-' := by
  cases value with
  | ofNat value => exact .inl (digits_naturalCharacters value character member)
  | negSucc value =>
      rcases List.mem_cons.mp member with sign | digit
      · exact .inr sign
      · exact .inl (digits_naturalCharacters (value + 1) character digit)

end Text

/-! ## Binary numbers -/

namespace Decimal

open NetworkAutomation.Text

def exponentText (characters : List Char) : List Char :=
  (characters.dropWhile (· != 'e')).tail

def wholeText (characters : List Char) : List Char :=
  (characters.takeWhile (· != 'e')).takeWhile (· != '.')

def fractionText (characters : List Char) : List Char :=
  ((characters.takeWhile (· != 'e')).dropWhile (· != '.')).tail

/-- The digits around the point are scaled by the exponent, and no exponent counts as zero. -/
def spelledValue (characters : List Char) : ℚ :=
  Nat.ofDigitChars 10 (wholeText characters ++ fractionText characters) 0 *
    10 ^ (((integer? (exponentText characters)).getD 0) - (fractionText characters).length : Int)

theorem digits_avoid {digits : List Char} (each : Digits digits) (mark : Char)
    (apart : mark.isDigit = false) : ∀ character ∈ digits, (character != mark) = true := by
  intro character member
  have digit := each character member
  rw [bne_iff_ne]
  rintro rfl
  rw [apart] at digit
  contradiction

theorem before_mark {characters : List Char} {mark : Char}
    (apart : ∀ character ∈ characters, (character != mark) = true) (rest : List Char) :
    (characters ++ mark :: rest).takeWhile (· != mark) = characters ∧
      (characters ++ mark :: rest).dropWhile (· != mark) = mark :: rest := by
  constructor
  · rw [List.takeWhile_append_of_pos apart]
    simp
  · rw [List.dropWhile_append_of_pos apart]
    simp

theorem without_mark {characters : List Char} {mark : Char}
    (apart : ∀ character ∈ characters, (character != mark) = true) :
    characters.takeWhile (· != mark) = characters ∧
      characters.dropWhile (· != mark) = [] := by
  constructor
  · rw [← List.append_nil characters, List.takeWhile_append_of_pos apart]
    rfl
  · rw [← List.append_nil characters, List.dropWhile_append_of_pos apart]
    rfl

section Parts

variable {whole fraction : List Char} (wholeDigits : Digits whole)
include wholeDigits

theorem pointed_avoids (fractionDigits : Digits fraction) :
    ∀ character ∈ whole ++ '.' :: fraction, (character != 'e') = true := by
  intro character member
  rcases List.mem_append.mp member with before | behind
  · exact digits_avoid wholeDigits 'e' (by decide) character before
  · rcases List.mem_cons.mp behind with rfl | digit
    · decide
    · exact digits_avoid fractionDigits 'e' (by decide) character digit

/-- Without an exponent the whole text is the mantissa. -/
theorem spelledValue_point (fractionDigits : Digits fraction) :
    spelledValue (whole ++ '.' :: fraction) =
      Nat.ofDigitChars 10 (whole ++ fraction) 0 * 10 ^ (-fraction.length : Int) := by
  obtain ⟨mantissa, rest⟩ := without_mark (pointed_avoids wholeDigits fractionDigits)
  obtain ⟨before, behind⟩ := before_mark (digits_avoid wholeDigits '.' rfl) fraction
  simp only [spelledValue, exponentText, wholeText, fractionText]
  rw [mantissa, rest, before, behind]
  simp [integer?, natural?]

theorem spelledValue_point_exponent (fractionDigits : Digits fraction) (power : Int) :
    spelledValue (whole ++ '.' :: (fraction ++ 'e' :: integerCharacters power)) =
      Nat.ofDigitChars 10 (whole ++ fraction) 0 * 10 ^ (power - fraction.length) := by
  obtain ⟨mantissa, rest⟩ := before_mark (pointed_avoids wholeDigits fractionDigits)
    (integerCharacters power)
  obtain ⟨before, behind⟩ := before_mark (digits_avoid wholeDigits '.' rfl) fraction
  simp only [spelledValue, exponentText, wholeText, fractionText]
  rw [← List.cons_append, ← List.append_assoc, mantissa, rest, before, behind]
  simp only [List.tail_cons, integer?_integerCharacters, Option.getD_some]

theorem spelledValue_exponent (power : Int) :
    spelledValue (whole ++ 'e' :: integerCharacters power) =
      Nat.ofDigitChars 10 whole 0 * 10 ^ power := by
  obtain ⟨mantissa, rest⟩ := before_mark (digits_avoid wholeDigits 'e' rfl)
    (integerCharacters power)
  obtain ⟨before, behind⟩ := without_mark (digits_avoid wholeDigits '.' rfl)
  simp only [spelledValue, exponentText, wholeText, fractionText]
  rw [mantissa, rest, before, behind]
  simp [integer?_integerCharacters]

end Parts

/-! ## Written decimals -/

theorem digits_zeros (count : Nat) : Digits (zeros count) := by
  intro character member
  rw [List.eq_of_mem_replicate member]
  decide

theorem Digits.append {left right : List Char} (leftDigits : Digits left)
    (rightDigits : Digits right) : Digits (left ++ right) := by
  intro character member
  rcases List.mem_append.mp member with before | behind
  · exact leftDigits character before
  · exact rightDigits character behind

section Writing

variable {digits : List Char} (each : Digits digits)
include each

theorem positional_value (point : Int) :
    spelledValue (positional digits point) =
      Nat.ofDigitChars 10 digits 0 * 10 ^ (point - digits.length) := by
  unfold positional
  split
  next below =>
    have zero : Digits ['0'] := digits_zeros 1
    have padded := Digits.append (digits_zeros point.natAbs) each
    have spelled := spelledValue_point zero padded
    have leading : '0' :: (zeros point.natAbs ++ digits) =
        List.replicate (point.natAbs + 1) '0' ++ digits := rfl
    rw [List.singleton_append, List.singleton_append, leading, Nat.ofDigitChars_append,
      Nat.ofDigitChars_replicate_zero, Nat.mul_zero, List.length_append, zeros,
      List.length_replicate] at spelled
    rw [zeros, spelled]
    congr 2
    omega
  next inside =>
    split
    next above =>
      have padded := Digits.append each (digits_zeros (point.natAbs - digits.length))
      have zero : Digits ['0'] := digits_zeros 1
      have power : point - digits.length = (point.natAbs - digits.length : Nat) := by omega
      rw [spelledValue_point padded zero, show ['0'] = List.replicate 1 '0' from rfl, zeros,
        Nat.ofDigitChars_append, Nat.ofDigitChars_append, Nat.ofDigitChars_replicate_zero,
        Nat.ofDigitChars_replicate_zero, power, zpow_natCast]
      push_cast
      simp
      ring
    next between =>
      have parts : digits.take point.natAbs ++ digits.drop point.natAbs = digits :=
        List.take_append_drop _ _
      rw [spelledValue_point, parts, List.length_drop]
      · congr 2
        omega
      · exact fun character member => each character (List.mem_of_mem_take member)
      · exact fun character member => each character (List.mem_of_mem_drop member)

theorem scientific_value (nonempty : digits ≠ []) (point : Int) :
    spelledValue (scientific digits point) =
      Nat.ofDigitChars 10 digits 0 * 10 ^ (point - digits.length) := by
  match digits, nonempty with
  | [only], _ =>
      have spelled := spelledValue_exponent each (point - 1)
      exact spelled
  | first :: second :: rest, _ =>
      have leading : Digits [first] := fun character member =>
        each character (List.mem_of_mem_take (i := 1) member)
      have fraction : Digits (second :: rest) := fun character member =>
        each character (List.mem_of_mem_drop (i := 1) member)
      have spelled := spelledValue_point_exponent leading fraction (point - 1)
      simp only [List.cons_append, List.nil_append] at spelled
      rw [scientific, spelled]
      congr 2
      simp
      omega

end Writing

namespace Spelling

/-- The written characters spell the value of the decimal. -/
theorem write_value (rule : Spelling) (decimal : Scaled) :
    spelledValue (rule.write decimal) = decimal.value := by
  have each := digits_naturalCharacters decimal.digits
  have read : Nat.ofDigitChars 10 (naturalCharacters decimal.digits) 0 = decimal.digits :=
    Nat.ofDigitChars_ten_toDigits
  unfold write Scaled.value
  simp only
  split
  · rw [positional_value each, read, add_sub_cancel_left]
  · rw [scientific_value each Nat.toDigits_ne_nil, read, add_sub_cancel_left]

theorem head?_write (rule : Spelling) (decimal : Scaled) :
    ∃ first, (rule.write decimal).head? = some first ∧ first.isDigit = true := by
  have each := digits_naturalCharacters decimal.digits
  obtain ⟨first, rest, digits⟩ : ∃ first rest, naturalCharacters decimal.digits = first :: rest :=
    List.exists_cons_of_ne_nil Nat.toDigits_ne_nil
  have firstDigit : first.isDigit = true := each first (digits ▸ List.mem_cons_self)
  unfold write
  simp only [digits]
  split
  · unfold positional
    split
    next => exact ⟨'0', rfl, rfl⟩
    next inside =>
      refine ⟨first, ?_, firstDigit⟩
      split
      · rfl
      · rw [List.take_cons (by omega)]
        rfl
  · refine ⟨first, ?_, firstDigit⟩
    cases rest <;> rfl

/-- No sign stands before the digits. -/
theorem write_ne_minus (rule : Spelling) (decimal : Scaled) (rest : List Char) :
    rule.write decimal ≠ '-' :: rest := by
  intro signed
  obtain ⟨first, head, digit⟩ := rule.head?_write decimal
  rw [signed] at head
  obtain rfl := Option.some.inj head
  contradiction

theorem mark_mem_write (rule : Spelling) (decimal : Scaled) :
    '.' ∈ rule.write decimal ∨ 'e' ∈ rule.write decimal := by
  unfold write
  simp only
  split
  · left
    unfold positional
    split
    · simp
    · split <;> simp
  · right
    unfold scientific
    split <;> simp

end Spelling

theorem Binary.eq_iff {left right : Binary} :
    left = right ↔ left.magnitude = right.magnitude ∧ left.negative = right.negative := by
  cases left
  cases right
  simp [and_comm]

/-- Only the sign and the absolute value matter for the text, and both can be read off it. -/
theorem Binary.text_injective : Function.Injective Binary.text := by
  intro left right same
  have characters := congrArg String.toList same
  simp only [Binary.text, String.toList_ofList] at characters
  have signs : left.negative = right.negative := by
    cases leftSign : left.negative <;> cases rightSign : right.negative
    · rfl
    · simp only [leftSign, rightSign, if_true, Bool.false_eq_true, if_false] at characters
      exact absurd characters (plainSpelling.write_ne_minus left.shortest _)
    · simp only [leftSign, rightSign, if_true, Bool.false_eq_true, if_false] at characters
      exact absurd characters.symm (plainSpelling.write_ne_minus right.shortest _)
    · rfl
  have written : plainSpelling.write left.shortest = plainSpelling.write right.shortest := by
    rw [signs] at characters
    split at characters
    · exact List.tail_eq_of_cons_eq characters
    · exact characters
  have values := congrArg spelledValue written
  rw [plainSpelling.write_value, plainSpelling.write_value] at values
  exact Binary.eq_iff.mpr ⟨magnitude_eq_of_shortest values, signs⟩

end Decimal

open NetworkAutomation.Decimal NetworkAutomation.Text

/-- The text of a float has a point or an exponent, which the text of an integer never has. -/
theorem Number.text_injective : Function.Injective Number.text := by
  have apart (value : Int) (float : Binary) : integerText value ≠ float.text := by
    intro same
    have characters := congrArg String.toList same
    simp only [integerText, Binary.text, String.toList_ofList] at characters
    have inside : ∀ character ∈ plainSpelling.write float.shortest,
        character ∈ integerCharacters value := by
      intro character member
      rw [characters]
      split
      · exact List.mem_cons_of_mem _ member
      · exact member
    rcases plainSpelling.mark_mem_write float.shortest with point | exponent
    · rcases isDigit_or_minus_of_mem (inside _ point) with digit | sign <;> contradiction
    · rcases isDigit_or_minus_of_mem (inside _ exponent) with digit | sign <;> contradiction
  intro left right same
  cases left with
  | integer left =>
      cases right with
      | integer right =>
          have characters := congrArg String.toList same
          simp only [Number.text, integerText, String.toList_ofList] at characters
          rw [integerCharacters_injective characters]
      | float right => exact absurd same (apart left right)
  | float left =>
      cases right with
      | integer right => exact absurd same.symm (apart right left)
      | float right => rw [Binary.text_injective same]

end NetworkAutomation
