/-
This file proves that integer parameters read the texts of signed words exactly, whatever blanks
stand around them, and refuse all other texts.
-/

import NetworkAutomation.Proofs.Invocation
import NetworkAutomation.Proofs.WordTexts

namespace NetworkAutomation

open NetworkAutomation.Text

namespace Parameter

/-- The value is accepted as the coerced one, unless some validator refuses that one first. -/
structure CountsAs (parameter : Parameter) (value coerced : Value) : Prop where
  accepted : ∀ action document, parameter.check action value = .ok document ↔
    (∀ validator ∈ parameter.validators, validator.check coerced = .ok ()) ∧
      document = coerced.toDocument
  refused : ∀ action error, parameter.check action value = .error error ↔
    ∃ before validator after cause, parameter.validators = before ++ validator :: after ∧
      (∀ earlier ∈ before, earlier.check coerced = .ok ()) ∧
      validator.check coerced = .error cause ∧
      error = .invalidArgument action parameter.name cause

/--
A text is accepted as the word that it spells amid blanks, and it is of the wrong type where it
spells no integer or one that no word holds. What a text parameter makes of a word is read back.
-/
structure ReadsIntegers (parameter : Parameter) : Prop where
  accepted : ∀ action text document, parameter.check action (.text text) = .ok document ↔
    ∃ word : Int64, SpellsAmidBlanks text word.toInt ∧
      (∀ validator ∈ parameter.validators, validator.check (.integer word) = .ok ()) ∧
      document = .integer word.toInt
  mistyped : ∀ action text, parameter.check action (.text text) =
      .error (.argumentType action parameter.name "int" "str") ↔
    ∀ value, SpellsAmidBlanks text value → value < -2 ^ 63 ∨ 2 ^ 63 - 1 < value
  spelled : ∀ text (word : Int64), SpellsAmidBlanks text word.toInt →
    parameter.CountsAs (.text text) (.integer word)
  rendered : ∀ (source : Parameter) (word : Int64), source.type = .text → ∃ shown,
    source.CountsAs (.integer word) (.text shown) ∧
      ∀ before after, Blank before.toList → Blank after.toList →
        parameter.CountsAs (.text (before ++ shown ++ after)) (.integer word)

variable {parameter : Parameter} {action : String} {value coerced : Value}

/-- Behind its coercion a value is only judged by the validators. -/
theorem countsAs_of_coerce? (fits : parameter.type.coerce? value = some coerced) :
    parameter.CountsAs value coerced where
  accepted action document := by
    rw [check_eq_iff]
    constructor
    · intro judges
      cases judges with
      | accepted also judged =>
        obtain rfl := Option.some.inj (fits.symm.trans also)
        exact ⟨judged, rfl⟩
    · rintro ⟨judged, rfl⟩
      exact .accepted fits judged
  refused action error := by
    rw [check_eq_iff]
    constructor
    · intro judges
      cases judges with
      | mistyped refused => exact nomatch refused.symm.trans fits
      | invalid also split judged refused =>
        obtain rfl := Option.some.inj (fits.symm.trans also)
        exact ⟨_, _, _, _, split, judged, refused, rfl⟩
    · rintro ⟨before, validator, after, cause, split, judged, refused, rfl⟩
      exact .invalid fits split judged refused

/-- The type is named where the value cannot be coerced, and nowhere else. -/
theorem check_eq_argumentType_iff {argument expected actual : String} :
    parameter.check action value = .error (.argumentType action argument expected actual) ↔
      parameter.type.coerce? value = none ∧ argument = parameter.name ∧
        expected = parameter.type.display ∧ actual = describe value := by
  rw [check_eq_iff]
  constructor
  · intro judges
    cases judges with
    | mistyped refused => exact ⟨refused, rfl, rfl, rfl⟩
  · rintro ⟨refused, rfl, rfl, rfl⟩
    exact .mistyped refused

section Integers

variable (isInteger : parameter.type = .integer)
include isInteger

theorem coerce?_text_eq_some_iff {text : String} : parameter.type.coerce? (.text text) =
    some coerced ↔ ∃ word : Int64, SpellsAmidBlanks text word.toInt ∧ coerced = .integer word := by
  rw [isInteger, ParameterType.coerce?, Option.map_eq_some_iff]
  exact exists_congr fun word => and_congr readWord?_trim_eq_some_iff eq_comm

theorem coerce?_text_eq_none_iff {text : String} : parameter.type.coerce? (.text text) = none ↔
    ∀ value, SpellsAmidBlanks text value → value < -2 ^ 63 ∨ 2 ^ 63 - 1 < value := by
  rw [isInteger, ParameterType.coerce?, Option.map_eq_none_iff, readWord?_trim_eq_none_iff]

theorem countsAs_of_spellsAmidBlanks {text : String} {word : Int64}
    (spelled : SpellsAmidBlanks text word.toInt) :
    parameter.CountsAs (.text text) (.integer word) :=
  countsAs_of_coerce? ((coerce?_text_eq_some_iff isInteger).mpr ⟨word, spelled, rfl⟩)

/-- Every integer parameter reads the texts of words, and no other texts. -/
theorem readsIntegers : parameter.ReadsIntegers where
  accepted action text document := by
    constructor
    · intro accepted
      obtain ⟨coerced, fits, _⟩ := Compile.check_eq_ok.mp accepted
      obtain ⟨word, spelled, rfl⟩ := (coerce?_text_eq_some_iff isInteger).mp fits
      exact ⟨word, spelled, ((countsAs_of_coerce? fits).accepted action document).mp accepted⟩
    · rintro ⟨word, spelled, taken⟩
      have counts := countsAs_of_spellsAmidBlanks isInteger spelled
      exact (counts.accepted action document).mpr taken
  mistyped action text := by
    rw [check_eq_argumentType_iff, coerce?_text_eq_none_iff isInteger, isInteger]
    exact ⟨And.left, fun unspelled => ⟨unspelled, rfl, rfl, rfl⟩⟩
  spelled _ _ := countsAs_of_spellsAmidBlanks isInteger
  rendered source word isText := by
    have shown : source.type.coerce? (.integer word) = some (.text (wordText word)) := by
      rw [isText, ParameterType.coerce?]
    refine ⟨wordText word, countsAs_of_coerce? shown, fun before after blank alsoBlank => ?_⟩
    exact countsAs_of_spellsAmidBlanks isInteger
      (spellsAmidBlanks_wordText word blank alsoBlank)

end Integers

/-- Nothing but the type of this parameter decides on what it accepts. -/
def counter : Parameter :=
  ⟨"count", .integer, true, none, []⟩

theorem counter_reads : counter.type = .integer ∧
    counter.check "repeat" (.text "\u3000-09223372036854775808\n") =
      .ok (.integer (-9223372036854775808)) ∧
    ∀ value, SpellsAmidBlanks "+9223372036854775808" value →
      value < -2 ^ 63 ∨ 2 ^ 63 - 1 < value := by
  have reads : counter.ReadsIntegers := readsIntegers rfl
  have least : SpellsAmidBlanks "\u3000-09223372036854775808\n" Int64.minValue.toInt :=
    readWord?_trim_eq_some_iff.mp (by decide +kernel)
  exact ⟨rfl, (reads.accepted _ _ _).mpr ⟨_, least, nofun, rfl⟩,
    (reads.mistyped "repeat" _).mp rfl⟩

end Parameter

end NetworkAutomation
