/-
This file says which texts are read as integers and as signed words, with blanks around them or not.
-/

import Mathlib.Data.List.TakeWhile
import NetworkAutomation.Proofs.NumberTexts
import NetworkAutomation.Proofs.WellFormedDocuments
import NetworkAutomation.Text.Blank

namespace NetworkAutomation.Text

/-- An integer is spelled by one or more digits behind at most one sign. -/
inductive SpellsInteger : List Char → Int → Prop where
  | bare {digits : List Char} (nonempty : digits ≠ []) (each : Digits digits) :
      SpellsInteger digits (Nat.ofDigitChars 10 digits 0)
  | plus {digits : List Char} (nonempty : digits ≠ []) (each : Digits digits) :
      SpellsInteger ('+' :: digits) (Nat.ofDigitChars 10 digits 0)
  | minus {digits : List Char} (nonempty : digits ≠ []) (each : Digits digits) :
      SpellsInteger ('-' :: digits) (-Nat.ofDigitChars 10 digits 0)

variable {characters : List Char}

theorem digitValue?_eq_none {character : Char} (other : character.isDigit = false) :
    digitValue? character = none := by
  unfold digitValue?
  rw [if_neg]
  intro within
  rw [Char.isDigit_iff_toNat.mpr within] at other
  contradiction

/-- Only digits are read. -/
theorem digits_of_digitsFrom? {value result : Nat}
    (read : digitsFrom? value characters = some result) : Digits characters := by
  induction characters generalizing value with
  | nil => exact fun _ member => absurd member List.not_mem_nil
  | cons first rest ih =>
      rw [digitsFrom?] at read
      cases isDigit : first.isDigit with
      | false =>
          rw [digitValue?_eq_none isDigit] at read
          cases read
      | true =>
          rw [digitValue?_of_isDigit isDigit] at read
          exact List.forall_mem_cons.mpr ⟨isDigit, ih read⟩

theorem natural?_eq_some_iff {value : Nat} :
    natural? characters = some value ↔
      characters ≠ [] ∧ Digits characters ∧ Nat.ofDigitChars 10 characters 0 = value := by
  cases characters with
  | nil => simp [natural?]
  | cons first rest =>
      rw [natural?]
      · constructor
        · intro read
          have digits := digits_of_digitsFrom? read
          rw [digitsFrom?_eq digits] at read
          exact ⟨List.cons_ne_nil _ _, digits, Option.some.inj read⟩
        · rintro ⟨_, digits, rfl⟩
          exact digitsFrom?_eq digits 0
      · exact List.cons_ne_nil _ _

theorem integer?_eq_some_iff {value : Int} :
    integer? characters = some value ↔ SpellsInteger characters value := by
  constructor
  · intro read
    unfold integer? at read
    split at read
    all_goals
      obtain ⟨magnitude, spelled, rfl⟩ := Option.map_eq_some_iff.mp read
      obtain ⟨nonempty, digits, rfl⟩ := natural?_eq_some_iff.mp spelled
    · exact .plus nonempty digits
    · exact .minus nonempty digits
    · exact .bare nonempty digits
  · rintro (⟨nonempty, digits⟩ | ⟨nonempty, digits⟩ | ⟨nonempty, digits⟩)
    all_goals have read := natural?_eq_some_iff.mpr ⟨nonempty, digits, rfl⟩
    · rw [integer?, read]
      · rfl
      -- A digit stands first, so no sign does.
      · rintro rest rfl
        exact absurd (digits '+' List.mem_cons_self) (by decide)
      · rintro rest rfl
        exact absurd (digits '-' List.mem_cons_self) (by decide)
    · rw [integer?, read]
      rfl
    · rw [integer?, read]
      rfl

theorem readWord?_eq_some_iff {text : String} {word : Int64} :
    readWord? text = some word ↔ SpellsInteger text.toList word.toInt := by
  rw [readWord?, Option.bind_eq_some_iff, ← integer?_eq_some_iff]
  constructor
  · rintro ⟨value, read, fits⟩
    rw [toInt_of_word? fits, read]
  · intro read
    exact ⟨word.toInt, read, word?_toInt word⟩

/-- The text of a word spells the word. -/
theorem spellsInteger_wordText (word : Int64) :
    SpellsInteger (wordText word).toList word.toInt := by
  rw [wordText, integerText, String.toList_ofList]
  exact integer?_eq_some_iff.mp (integer?_integerCharacters word.toInt)

/-! ## Blanks -/

def Blank (characters : List Char) : Prop :=
  ∀ character ∈ characters, isBlank character = true

/-- Blanks may stand before and behind the digits and their sign. -/
def SpellsAmidBlanks (text : String) (value : Int) : Prop :=
  ∃ before spelling after, text.toList = before ++ spelling ++ after ∧
    Blank before ∧ Blank after ∧ SpellsInteger spelling value

theorem Blank.reverse (blank : Blank characters) : Blank characters.reverse :=
  fun character member => blank character (List.mem_reverse.mp member)

theorem isBlank_of_isDigit {character : Char} (digit : character.isDigit = true) :
    isBlank character = false := by
  obtain ⟨lower, upper⟩ := Char.isDigit_iff_toNat.mp digit
  simp only [isBlank]
  grind

theorem SpellsInteger.nonempty {value : Int} (spelled : SpellsInteger characters value) :
    characters ≠ [] := by
  cases spelled with
  | bare nonempty => exact nonempty
  | plus => exact List.cons_ne_nil _ _
  | minus => exact List.cons_ne_nil _ _

/-- Neither a sign nor a digit is blank. -/
theorem SpellsInteger.not_isBlank {value : Int} (spelled : SpellsInteger characters value) :
    ∀ character ∈ characters, isBlank character = false := by
  have ofDigits {digits : List Char} (each : Digits digits) :
      ∀ character ∈ digits, isBlank character = false :=
    fun character member => isBlank_of_isDigit (each character member)
  cases spelled with
  | bare _ each => exact ofDigits each
  | plus _ each => exact List.forall_mem_cons.mpr ⟨by decide, ofDigits each⟩
  | minus _ each => exact List.forall_mem_cons.mpr ⟨by decide, ofDigits each⟩

/-- Blanks are dropped up to the first character that is not blank. -/
theorem dropWhile_isBlank {before rest : List Char} (blank : Blank before)
    (solid : ∀ character ∈ characters, isBlank character = false) (nonempty : characters ≠ []) :
    (before ++ (characters ++ rest)).dropWhile isBlank = characters ++ rest := by
  obtain ⟨first, others, rfl⟩ := List.exists_cons_of_ne_nil nonempty
  have firstSolid : ¬isBlank first = true := by simp [solid first List.mem_cons_self]
  rw [List.dropWhile_append_of_pos blank, List.cons_append, List.dropWhile_cons_of_neg firstSolid]

theorem trimCharacters_amid_blanks {before after : List Char} (blank : Blank before)
    (alsoBlank : Blank after) (solid : ∀ character ∈ characters, isBlank character = false)
    (nonempty : characters ≠ []) :
    trimCharacters (before ++ characters ++ after) = characters := by
  have reversed : ∀ character ∈ characters.reverse, isBlank character = false :=
    fun character member => solid character (List.mem_reverse.mp member)
  have dropped : (after.reverse ++ (characters.reverse ++ [])).dropWhile isBlank =
      characters.reverse ++ [] :=
    dropWhile_isBlank alsoBlank.reverse reversed (by simpa using nonempty)
  rw [List.append_nil] at dropped
  rw [trimCharacters, List.append_assoc, dropWhile_isBlank blank solid nonempty,
    List.reverse_append, dropped, List.reverse_reverse]

/-- What is trimmed away are the blanks at both ends. -/
theorem exists_amid_blanks (characters : List Char) : ∃ before after,
    characters = before ++ trimCharacters characters ++ after ∧ Blank before ∧ Blank after := by
  have blank (part : List Char) : Blank (part.takeWhile isBlank) :=
    fun character member => List.mem_takeWhile_imp member
  have parts (part : List Char) : part.takeWhile isBlank ++ part.dropWhile isBlank = part :=
    List.takeWhile_append_dropWhile
  refine ⟨characters.takeWhile isBlank,
    ((characters.dropWhile isBlank).reverse.takeWhile isBlank).reverse, ?_, blank _,
    (blank _).reverse⟩
  rw [trimCharacters, List.append_assoc, ← List.reverse_append, parts, List.reverse_reverse, parts]

theorem spellsAmidBlanks_iff {text : String} {value : Int} :
    SpellsAmidBlanks text value ↔ SpellsInteger (trim text).toList value := by
  rw [trim, String.toList_ofList]
  constructor
  · rintro ⟨before, spelling, after, whole, blank, alsoBlank, spelled⟩
    rw [whole, trimCharacters_amid_blanks blank alsoBlank spelled.not_isBlank spelled.nonempty]
    exact spelled
  · intro spelled
    obtain ⟨before, after, whole, blank, alsoBlank⟩ := exists_amid_blanks text.toList
    exact ⟨before, _, after, whole, blank, alsoBlank, spelled⟩

/-- The text of a word spells the word amid any blanks. -/
theorem spellsAmidBlanks_wordText (word : Int64) {before after : String}
    (blank : Blank before.toList) (alsoBlank : Blank after.toList) :
    SpellsAmidBlanks (before ++ wordText word ++ after) word.toInt :=
  ⟨before.toList, (wordText word).toList, after.toList, by simp, blank, alsoBlank,
    spellsInteger_wordText word⟩

theorem readWord?_trim_eq_some_iff {text : String} {word : Int64} :
    readWord? (trim text) = some word ↔ SpellsAmidBlanks text word.toInt := by
  rw [readWord?_eq_some_iff, spellsAmidBlanks_iff]

/-- What is refused spells no integer, or one that no word holds. -/
theorem readWord?_trim_eq_none_iff {text : String} : readWord? (trim text) = none ↔
    ∀ value, SpellsAmidBlanks text value → value < -2 ^ 63 ∨ 2 ^ 63 - 1 < value := by
  rw [Option.eq_none_iff_forall_ne_some]
  simp only [ne_eq, readWord?_trim_eq_some_iff]
  constructor
  · intro none value spelled
    by_contra inside
    obtain ⟨lower, upper⟩ := not_or.mp inside
    have same : (Int64.ofInt value).toInt = value :=
      Int64.toInt_ofInt_of_le (by omega) (by omega)
    exact none (Int64.ofInt value) (by rwa [same])
  · intro outside word spelled
    have lower := Int64.le_toInt word
    have upper := Int64.toInt_lt word
    have beyond := outside word.toInt spelled
    omega

end NetworkAutomation.Text
