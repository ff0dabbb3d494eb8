/-
This file proves that the readers of document text take whole strings and whole objects from it, and
that they do not tell a line break between the parts from a space.
-/

import Mathlib.Data.List.TakeWhile
import NetworkAutomation.Proofs.NestedBraces
import NetworkAutomation.Proofs.NumberTexts

namespace NetworkAutomation

open NetworkAutomation.PortConfig
open NetworkAutomation.Text

/-! ## Line breaks -/

/-- Spaces stand where the line breaks stood. -/
def spaced (characters : List Char) : List Char :=
  characters.map fun character => if character = '\n' then ' ' else character

section Spaced

variable {character : Char} {characters rest : List Char}

theorem spaced_cons (apart : character ≠ '\n') (characters : List Char) :
    spaced (character :: characters) = character :: spaced characters := by
  rw [spaced, List.map_cons, if_neg apart, spaced]

theorem spaced_append (first second : List Char) :
    spaced (first ++ second) = spaced first ++ spaced second :=
  List.map_append

theorem spaced_eq_self (unbroken : ∀ character ∈ characters, character ≠ '\n') :
    spaced characters = characters := by
  rw [spaced, List.map_congr_left fun character member => if_neg (unbroken character member)]
  exact List.map_id' characters

theorem length_spaced (characters : List Char) : (spaced characters).length = characters.length :=
  List.length_map _

/-- Spaces stand where spaces or line breaks stood, and all else is as it was. -/
theorem exists_of_spaced_eq_cons (noSpace : character ≠ ' ')
    (same : spaced characters = character :: rest) :
    ∃ others, characters = character :: others := by
  cases characters with
  | nil => exact nomatch same
  | cons first others =>
      by_cases isBreak : first = '\n'
      · rw [spaced, List.map_cons, if_pos isBreak, List.cons.injEq] at same
        exact absurd same.1.symm noSpace
      · rw [spaced_cons isBreak, List.cons.injEq] at same
        exact ⟨others, by rw [same.1]⟩

theorem spaced_ne_cons (noSpace : character ≠ ' ')
    (absent : ∀ others, characters ≠ character :: others) (rest : List Char) :
    spaced characters ≠ character :: rest := by
  intro same
  obtain ⟨others, whole⟩ := exists_of_spaced_eq_cons noSpace same
  exact absent others whole

/-- A part that breaks and spaces alike belong to, or not, ends at the same place. -/
theorem dropWhile_spaced {belongs : Char → Bool} (alike : belongs '\n' = belongs ' ')
    (characters : List Char) :
    (spaced characters).dropWhile belongs = spaced (characters.dropWhile belongs) := by
  have same : (belongs ∘ fun character => if character = '\n' then ' ' else character) =
      belongs := by
    funext character
    by_cases isBreak : character = '\n' <;> simp [isBreak, alike]
  rw [spaced, List.dropWhile_map, same, spaced]

theorem takeWhile_spaced {belongs : Char → Bool} (noBreak : belongs '\n' = false)
    (noSpace : belongs ' ' = false) (characters : List Char) :
    (spaced characters).takeWhile belongs = characters.takeWhile belongs := by
  induction characters with
  | nil => rfl
  | cons first others ih =>
      by_cases isBreak : first = '\n'
      · rw [isBreak, List.takeWhile_cons, noBreak]
        simp [spaced, noSpace]
      · rw [spaced_cons isBreak, List.takeWhile_cons, List.takeWhile_cons, ih]

theorem PortConfig.Place.foldl_spaced (place : Place) (characters : List Char) :
    (spaced characters).foldl Place.next place = characters.foldl Place.next place := by
  have same : (fun place character =>
      Place.next place (if character = '\n' then ' ' else character)) = Place.next := by
    funext place character
    by_cases isBreak : character = '\n'
    · rw [if_pos isBreak, isBreak]
      cases place <;> rfl
    · rw [if_neg isBreak]
  rw [spaced, List.foldl_map, same]

theorem PortConfig.placed_spaced (wanted : Place → Bool) (place : Place) (characters : List Char) :
    placed wanted place (spaced characters) = spaced (placed wanted place characters) := by
  induction characters generalizing place with
  | nil => rfl
  | cons first others ih =>
      have step := Place.foldl_spaced place [first]
      rw [spaced, List.map_cons, List.map_nil, List.foldl_cons, List.foldl_cons, List.foldl_nil,
        List.foldl_nil] at step
      rw [spaced, List.map_cons, placed, placed, step, ← spaced, ih]
      split <;> rfl

theorem PortConfig.nesting_spaced (characters : List Char) :
    nesting (spaced characters) = nesting characters := by
  induction characters with
  | nil => rfl
  | cons first others ih =>
      by_cases isBreak : first = '\n'
      · rw [isBreak, nesting_cons '\n' others, spaced, List.map_cons, if_pos rfl, nesting_cons,
          ← spaced, ih]
        rfl
      · rw [spaced_cons isBreak, nesting_cons, nesting_cons first others, ih]

theorem PortConfig.Passes.dropWhile {belongs : Char → Bool}
    (plain : ∀ character, belongs character = true →
      character ≠ '"' ∧ character ≠ '{' ∧ character ≠ '}') (characters : List Char) :
    Passes characters (characters.dropWhile belongs) := by
  have dropped : ∀ character ∈ characters.takeWhile belongs,
      character ≠ '"' ∧ character ≠ '{' ∧ character ≠ '}' :=
    fun character member => plain character (List.mem_takeWhile_imp member)
  have passes := Passes.plain_append dropped (characters.dropWhile belongs)
  rwa [List.takeWhile_append_dropWhile] at passes

end Spaced

/--
What the reader takes it passes over, up to the closing mark if there is one, and it takes the same
where line breaks are spaces.
-/
def Regular {α : Type} (closing : List Char) (read : List Char → Option (α × List Char)) : Prop :=
  ∀ characters value rest, read characters = some (value, rest) →
    Passes characters (closing ++ rest) ∧ read (spaced characters) = some (value, spaced rest)

namespace Regular

variable {α β : Type} {closing : List Char} {read other : List Char → Option (α × List Char)}

/-- A reader that leaves the text as it is. -/
theorem stay (result : Option β) (wrap : β → α) : Regular [] fun characters =>
    result.bind fun value => some (wrap value, characters) := by
  intro characters value rest taken
  obtain ⟨found, rfl, same⟩ := Option.bind_eq_some_iff.mp taken
  cases same
  exact ⟨.stop _, rfl⟩

/-- One reader goes on where another one stopped. -/
theorem bind {next : α → List Char → Option (β × List Char)} (regular : Regular [] read)
    (further : ∀ value, Regular closing (next value)) :
    Regular closing fun characters => (read characters).bind fun taken => next taken.1 taken.2 := by
  intro characters value rest taken
  obtain ⟨⟨first, behind⟩, found, later⟩ := Option.bind_eq_some_iff.mp taken
  obtain ⟨passes, same⟩ := regular characters first behind found
  obtain ⟨passesOn, sameLater⟩ := further first behind value rest later
  exact ⟨passes.trans passesOn, Option.bind_eq_some_iff.mpr ⟨_, same, sameLater⟩⟩

/-- A mark is passed over, and the text behind it is read. -/
theorem ahead {mark : Char} (isPlain : mark ∉ ['"', '{', '}', '\n'])
    (regular : Regular closing fun behind => read (mark :: behind)) (behind : List Char) (value : α)
    (rest : List Char) (taken : read (mark :: behind) = some (value, rest)) :
    Passes (mark :: behind) (closing ++ rest) ∧
      read (spaced (mark :: behind)) = some (value, spaced rest) := by
  obtain ⟨passes, same⟩ := regular behind value rest taken
  simp only [List.mem_cons, List.not_mem_nil, or_false, not_or] at isPlain
  obtain ⟨noQuote, noOpening, noClosing, noBreak⟩ := isPlain
  rw [spaced_cons noBreak]
  exact ⟨.plain noQuote noOpening noClosing passes, same⟩

/-- A reader may look at the mark in front before it reads on. -/
theorem of_marks (marks : List Char) (noSpace : ' ' ∉ marks)
    (ahead : ∀ mark ∈ marks, ∀ behind value rest, read (mark :: behind) = some (value, rest) →
      Passes (mark :: behind) (closing ++ rest) ∧
        read (spaced (mark :: behind)) = some (value, spaced rest))
    (otherwise : ∀ characters, (∀ mark ∈ marks, ∀ behind, characters ≠ mark :: behind) →
      read characters = other characters)
    (regular : Regular closing other) : Regular closing read := by
  intro characters value rest taken
  by_cases marked : ∃ mark ∈ marks, ∃ behind, characters = mark :: behind
  · obtain ⟨mark, member, behind, rfl⟩ := marked
    exact ahead mark member behind value rest taken
  · have unmarked : ∀ mark ∈ marks, ∀ behind, characters ≠ mark :: behind :=
      fun mark member behind same => marked ⟨mark, member, behind, same⟩
    rw [otherwise characters unmarked] at taken
    rw [otherwise (spaced characters)]
    · exact regular characters value rest taken
    · intro mark member
      exact spaced_ne_cons (fun space => noSpace (space ▸ member)) (unmarked mark member)

end Regular

/-! ## Numbers -/

namespace Numeral

theorem plain_of_isDigit {character : Char} (digit : isDigit character = true) :
    character ≠ '"' ∧ character ≠ '{' ∧ character ≠ '}' := by
  refine ⟨?_, ?_, ?_⟩ <;> rintro rfl <;> exact absurd digit (by decide)

theorem takeDigits_spaced (significand taken : Nat) (characters : List Char) :
    takeDigits significand taken (spaced characters) =
      { takeDigits significand taken characters with
        rest := spaced (takeDigits significand taken characters).rest } := by
  induction characters generalizing significand taken with
  | nil => rfl
  | cons first others ih =>
      by_cases isBreak : first = '\n'
      · rw [isBreak]
        rfl
      · rw [spaced_cons isBreak, takeDigits, takeDigits]
        split
        next digit _ =>
          split
          next => exact ih _ _
          next => rw [spaced_cons isBreak]
        next => rw [spaced_cons isBreak]

theorem takeDigits_passes (significand taken : Nat) (characters : List Char) :
    Passes characters (takeDigits significand taken characters).rest := by
  induction characters generalizing significand taken with
  | nil => exact .stop []
  | cons first others ih =>
      rw [takeDigits]
      split
      next digit found =>
        obtain ⟨noQuote, noOpening, noClosing⟩ :=
          plain_of_isDigit (show isDigit first = true by rw [isDigit, found]; rfl)
        split
        next => exact .plain noQuote noOpening noClosing (ih _ _)
        next => exact .stop _
      next => exact .stop _

theorem dropDigits_passes (characters : List Char) :
    Passes characters (characters.dropWhile isDigit) :=
  .dropWhile (fun _ => plain_of_isDigit) characters

theorem dropWhile_isDigit_spaced (characters : List Char) :
    (spaced characters).dropWhile isDigit = spaced (characters.dropWhile isDigit) :=
  dropWhile_spaced (by decide) characters

theorem takeWhile_isDigit_spaced (characters : List Char) :
    (spaced characters).takeWhile isDigit = characters.takeWhile isDigit :=
  takeWhile_spaced (by decide) (by decide) characters

/-- The digits of an exponent, whose sign was read. -/
def exponentDigits? (negative : Bool) (digits : List Char) : Option (Int × List Char) :=
  match natural? (digits.takeWhile isDigit) with
  | some value => some (if negative then -value else value, digits.dropWhile isDigit)
  | none => none

theorem exponentDigits?_regular (negative : Bool) : Regular [] (exponentDigits? negative) := by
  intro digits value rest taken
  unfold exponentDigits? at taken ⊢
  rw [takeWhile_isDigit_spaced, dropWhile_isDigit_spaced]
  split at taken
  next =>
    cases taken
    exact ⟨dropDigits_passes digits, rfl⟩
  next => exact nomatch taken

theorem readExponent?_regular : Regular [] readExponent? := by
  refine .of_marks ['+', '-'] (by decide) ?_ ?_ (exponentDigits?_regular false)
  · simp only [List.forall_mem_cons]
    exact ⟨Regular.ahead (by decide) (exponentDigits?_regular false),
      Regular.ahead (by decide) (exponentDigits?_regular true), nofun⟩
  · intro characters unsigned
    unfold readExponent?
    split
    next negative digits same =>
      split at same
      next => exact absurd rfl (unsigned '+' (by decide) _)
      next => exact absurd rfl (unsigned '-' (by decide) _)
      next =>
        cases same
        rfl

theorem finish?_regular (negative : Bool) (significand : Nat) (power : Int) :
    Regular [] (finish? negative significand power) := by
  have exponents : Regular [] fun characters =>
      (readExponent? characters).bind fun taken =>
        (approximate? significand (power + taken.1)).bind fun value =>
          some (signed negative value, taken.2) :=
    readExponent?_regular.bind fun exponent =>
      .stay (approximate? significand (power + exponent)) (signed negative)
  refine .of_marks ['e', 'E'] (by decide) ?_ ?_ (.stay (approximate? significand power)
    (signed negative))
  · simp only [List.forall_mem_cons]
    exact ⟨Regular.ahead (by decide) exponents, Regular.ahead (by decide) exponents, nofun⟩
  · intro characters unmarked
    unfold finish?
    split
    next => exact absurd rfl (unmarked 'e' (by decide) _)
    next => exact absurd rfl (unmarked 'E' (by decide) _)
    next => rfl

theorem readFraction?_regular (negative : Bool) (significand : Nat) (power : Int) :
    Regular [] (readFraction? negative significand power) := by
  intro characters value rest taken
  unfold readFraction? at taken
  split at taken
  next first others =>
    split at taken
    next digit =>
      obtain ⟨passes, same⟩ := finish?_regular _ _ _ _ value rest taken
      have isPlain := plain_of_isDigit digit
      have noBreak : first ≠ '\n' := by
        rintro rfl
        exact absurd digit (by decide)
      refine ⟨(takeDigits_passes significand 0 _).trans ((dropDigits_passes _).trans passes), ?_⟩
      have spacedDigits := takeDigits_spaced significand 0 (first :: others)
      rw [spaced_cons noBreak] at spacedDigits ⊢
      rw [readFraction?, if_pos digit, spacedDigits]
      dsimp only
      rw [dropWhile_isDigit_spaced]
      exact same
    next => exact nomatch taken
  next => exact nomatch taken

theorem readTail?_regular (negative : Bool) (significand dropped : Nat) :
    Regular [] (readTail? negative significand dropped) := by
  have finished := finish?_regular negative significand dropped
  have whole : Regular [] fun characters =>
      if dropped = 0 then (whole? negative significand).map fun number => (number, characters)
      else finish? negative significand dropped characters := by
    split
    next =>
      simpa only [Option.map_eq_bind, Function.comp_def, id] using
        Regular.stay (whole? negative significand) id
    next => exact finished
  refine .of_marks ['.', 'e', 'E'] (by decide) ?_ ?_ whole
  · simp only [List.forall_mem_cons]
    refine ⟨Regular.ahead (by decide) (readFraction?_regular negative significand dropped),
      fun behind => ?_, fun behind => ?_, nofun⟩
    · exact finished ('e' :: behind)
    · exact finished ('E' :: behind)
  · intro characters unmarked
    unfold readTail?
    split
    next => exact absurd rfl (unmarked '.' (by decide) _)
    next => exact absurd rfl (unmarked 'e' (by decide) _)
    next => exact absurd rfl (unmarked 'E' (by decide) _)
    next => rfl

/-- No digit follows a leading zero. -/
theorem readZero?_regular (negative : Bool) :
    Regular [] fun characters => readUnsigned? negative ('0' :: characters) := by
  intro characters value rest taken
  have tail := readTail?_regular negative 0 0 characters value rest
  cases characters with
  | nil => exact tail taken
  | cons first others =>
      change (if isDigit first then none else readTail? negative 0 0 (first :: others)) = _ at taken
      split at taken
      next => exact nomatch taken
      next noDigit =>
        obtain ⟨passes, same⟩ := tail taken
        refine ⟨passes, ?_⟩
        by_cases isBreak : first = '\n'
        · rw [isBreak] at same ⊢
          exact same
        · rw [spaced_cons isBreak] at same ⊢
          exact (if_neg noDigit).trans same

theorem readUnsigned?_regular (negative : Bool) : Regular [] (readUnsigned? negative) := by
  have digits : Regular [] fun characters =>
      if (takeDigits 0 0 characters).taken = 0 then none
      else readTail? negative (takeDigits 0 0 characters).significand
        ((takeDigits 0 0 characters).rest.takeWhile isDigit).length
        ((takeDigits 0 0 characters).rest.dropWhile isDigit) := by
    intro characters value rest taken
    dsimp only at taken ⊢
    rw [takeDigits_spaced]
    dsimp only
    rw [takeWhile_isDigit_spaced, dropWhile_isDigit_spaced]
    split at taken
    next => exact nomatch taken
    next some =>
      obtain ⟨passes, same⟩ := readTail?_regular _ _ _ _ value rest taken
      rw [if_neg some]
      exact ⟨(takeDigits_passes 0 0 characters).trans ((dropDigits_passes _).trans passes), same⟩
  refine .of_marks ['0'] (by decide) ?_ ?_ digits
  · simp only [List.forall_mem_cons]
    exact ⟨Regular.ahead (by decide) (readZero?_regular negative), nofun⟩
  · intro characters unmarked
    unfold readUnsigned?
    split
    next => exact absurd rfl (unmarked '0' (by decide) _)
    next => rfl

theorem read?_regular : Regular [] read? := by
  refine .of_marks ['-'] (by decide) ?_ ?_ (readUnsigned?_regular false)
  · simp only [List.forall_mem_cons]
    exact ⟨Regular.ahead (by decide) (readUnsigned?_regular true), nofun⟩
  · intro characters unsigned
    unfold read?
    split
    next => exact absurd rfl (unsigned '-' (by decide) _)
    next => rfl

end Numeral

/-! ## Strings -/

namespace PortConfig.StringBody

theorem of_plain {text : List Char}
    (plain : ∀ character ∈ text, character ≠ '"' ∧ character ≠ '\\') : StringBody text := by
  induction text with
  | nil => exact .nil
  | cons first rest ih =>
      obtain ⟨⟨noQuote, noBackslash⟩, later⟩ := List.forall_mem_cons.mp plain
      exact .plain noQuote noBackslash (ih later)

theorem append {first second : List Char} (body : StringBody first) (also : StringBody second) :
    StringBody (first ++ second) := by
  induction body with
  | nil => exact also
  | plain noQuote noBackslash _ ih => exact .plain noQuote noBackslash ih
  | escaped character _ ih => exact .escaped character ih

end PortConfig.StringBody

namespace Reader

/-- A digit is no mark of a string and no line break. -/
theorem plain_of_hexValue? {character : Char} {value : Nat}
    (digit : hexValue? character = some value) :
    character ≠ '"' ∧ character ≠ '\\' ∧ character ≠ '\n' := by
  refine ⟨?_, ?_, ?_⟩ <;> rintro rfl <;>
    exact nomatch (show (none : Option Nat) = some value from digit)

/-- The reader takes the front of a string, and it takes the same where line breaks are spaces. -/
def TakesBody {α : Type} (read : List Char → Option (α × List Char)) : Prop :=
  ∀ characters value rest, read characters = some (value, rest) →
    (∃ body, characters = body ++ rest ∧ StringBody body) ∧
      read (spaced characters) = some (value, spaced rest)

theorem readUnit?_takesBody : TakesBody readUnit? := by
  intro characters value rest taken
  unfold readUnit? at taken
  split at taken
  next first second third fourth behind =>
    simp only [Option.bind_eq_bind, Option.bind_eq_some_iff] at taken
    obtain ⟨_, one, _, two, _, three, _, four, same⟩ := taken
    cases same
    have plain : ∀ character ∈ [first, second, third, fourth],
        character ≠ '"' ∧ character ≠ '\\' ∧ character ≠ '\n' := by
      simp only [List.forall_mem_cons]
      exact ⟨plain_of_hexValue? one, plain_of_hexValue? two, plain_of_hexValue? three,
        plain_of_hexValue? four, nofun⟩
    have kept : spaced [first, second, third, fourth] = [first, second, third, fourth] :=
      spaced_eq_self fun character member => (plain character member).2.2
    refine ⟨⟨[first, second, third, fourth], rfl, .of_plain fun character member =>
      ⟨(plain character member).1, (plain character member).2.1⟩⟩, ?_⟩
    change readUnit? (spaced ([first, second, third, fourth] ++ rest)) = _
    rw [spaced_append, kept]
    simp only [List.cons_append, List.nil_append, readUnit?, one, two, three, four,
      Option.bind_eq_bind, Option.bind_some]
  next => exact nomatch taken

theorem readUnits?_takesBody : TakesBody readUnits? := by
  intro characters value rest taken
  unfold readUnits? at taken
  rw [Option.bind_eq_bind, Option.bind_eq_some_iff] at taken
  obtain ⟨⟨unit, behind⟩, leading, taken⟩ := taken
  obtain ⟨⟨body, whole, isBody⟩, sameUnit⟩ := readUnit?_takesBody _ _ _ leading
  dsimp only at taken
  split at taken
  next isLeading =>
    split at taken
    next others =>
      rw [Option.bind_eq_some_iff] at taken
      obtain ⟨⟨second, remaining⟩, trailing, taken⟩ := taken
      obtain ⟨⟨later, more, isLater⟩, sameSecond⟩ := readUnit?_takesBody _ _ _ trailing
      dsimp only at taken
      split at taken
      next isTrailing =>
        obtain ⟨rfl, rfl⟩ := Prod.mk.inj (Option.some.inj taken)
        refine ⟨⟨body ++ '\\' :: 'u' :: later, by simp [whole, more],
          isBody.append (.escaped 'u' isLater)⟩, ?_⟩
        rw [spaced_cons (by decide), spaced_cons (by decide)] at sameUnit
        simp only [readUnits?, sameUnit, sameSecond, Option.bind_eq_bind, Option.bind_some,
          if_pos isLeading, if_pos isTrailing]
      next => exact nomatch taken
    next => exact nomatch taken
  next notLeading =>
    split at taken
    next => exact nomatch taken
    next notTrailing =>
      cases taken
      refine ⟨⟨body, whole, isBody⟩, ?_⟩
      simp only [readUnits?, sameUnit, Option.bind_eq_bind, Option.bind_some,
        if_neg notLeading, if_neg notTrailing]

/-- An escape belongs to a string together with its backslash. -/
theorem readEscape?_takesBody {characters rest : List Char} {value : Char}
    (taken : readEscape? characters = some (value, rest)) :
    (∃ body, '\\' :: characters = body ++ rest ∧ StringBody body) ∧
      readEscape? (spaced characters) = some (value, spaced rest) := by
  unfold readEscape? at taken
  split at taken
  case h_9 behind =>
    obtain ⟨⟨body, rfl, isBody⟩, same⟩ := readUnits?_takesBody _ _ _ taken
    exact ⟨⟨'\\' :: 'u' :: body, rfl, .escaped 'u' isBody⟩, same⟩
  case h_10 => exact nomatch taken
  all_goals
    cases taken
    exact ⟨⟨['\\', _], rfl, .escaped _ .nil⟩, rfl⟩

theorem readString?_takesBody {fuel : Nat} {characters rest value : List Char}
    (taken : readString? fuel characters = some (value, rest)) :
    (∃ body, characters = body ++ '"' :: rest ∧ StringBody body) ∧
      readString? fuel (spaced characters) = some (value, spaced rest) := by
  fun_induction readString? fuel characters generalizing value with
  | case1 fuel behind =>
    cases taken
    exact ⟨⟨[], rfl, .nil⟩, by simp [spaced, readString?]⟩
  | case2 fuel escaped ih =>
    rw [Option.bind_eq_bind, Option.bind_eq_some_iff] at taken
    obtain ⟨⟨character, behind⟩, unescaped, taken⟩ := taken
    obtain ⟨⟨text, remaining⟩, read, taken⟩ := Option.bind_eq_some_iff.mp taken
    cases taken
    obtain ⟨⟨body, whole, isBody⟩, sameEscape⟩ := readEscape?_takesBody unescaped
    obtain ⟨⟨later, more, isLater⟩, sameLater⟩ := ih behind read
    refine ⟨⟨body ++ later, by rw [whole, more, List.append_assoc], isBody.append isLater⟩, ?_⟩
    rw [spaced_cons (by decide)]
    simp only [readString?, sameEscape, sameLater, Option.bind_eq_bind, Option.bind_some]
  | case3 => exact nomatch taken
  | case4 fuel character behind noQuote noBackslash printed ih =>
    rw [Option.bind_eq_bind, Option.bind_eq_some_iff] at taken
    obtain ⟨⟨text, remaining⟩, read, taken⟩ := taken
    cases taken
    obtain ⟨⟨body, whole, isBody⟩, same⟩ := ih read
    have noBreak : character ≠ '\n' := by
      rintro rfl
      exact printed (by decide)
    refine ⟨⟨character :: body, by rw [whole, List.cons_append], .plain noQuote noBackslash isBody⟩,
      ?_⟩
    rw [spaced_cons noBreak, readString?]
    · simp only [if_neg printed, same, Option.bind_eq_bind, Option.bind_some]
    · exact noQuote
    · exact noBackslash
  | case5 => exact nomatch taken

theorem readQuoted?_regular : Regular [] readQuoted? := by
  intro characters value rest taken
  unfold readQuoted? at taken
  split at taken
  next behind =>
    obtain ⟨⟨text, remaining⟩, read, same⟩ := Option.map_eq_some_iff.mp taken
    cases same
    obtain ⟨⟨body, whole, isBody⟩, sameText⟩ := readString?_takesBody read
    rw [spaced_cons (by decide), readQuoted?, length_spaced, sameText, whole]
    exact ⟨.quoted isBody (.stop _), rfl⟩
  next => exact nomatch taken

/-! ## Documents -/

theorem skipSpace_spaced (characters : List Char) :
    skipSpace (spaced characters) = spaced (skipSpace characters) :=
  dropWhile_spaced (by decide) characters

theorem skipSpace_passes (characters : List Char) : Passes characters (skipSpace characters) := by
  refine .dropWhile (fun character space => ?_) characters
  refine ⟨?_, ?_, ?_⟩ <;> rintro rfl <;> exact absurd space (by decide)

/-- Space is passed over up to the mark behind it. -/
theorem skipSpace_mark {mark : Char} {characters rest : List Char} (noBreak : mark ≠ '\n')
    (ahead : skipSpace characters = mark :: rest) :
    Passes characters (mark :: rest) ∧ skipSpace (spaced characters) = mark :: spaced rest := by
  rw [skipSpace_spaced, ← spaced_cons noBreak, ← ahead]
  exact ⟨skipSpace_passes characters, rfl⟩

theorem expect?_eq_some_iff {pattern characters rest : List Char} :
    expect? pattern characters = some rest ↔ characters = pattern ++ rest := by
  induction pattern generalizing characters with
  | nil => simp [expect?]
  | cons expected pattern ih =>
      cases characters with
      | nil => simp [expect?]
      | cons character others =>
          rw [expect?]
          by_cases same : expected = character
          · simp [same, ih]
          · simp [same, Ne.symm same]

theorem word_regular (word : List Char)
    (isPlain : ∀ mark ∈ word, mark ∉ ['"', '{', '}', '\n']) (document : Document) :
    Regular [] fun characters =>
      (expect? word characters).map fun remaining => (document, remaining) := by
  intro characters value rest taken
  obtain ⟨remaining, found, same⟩ := Option.map_eq_some_iff.mp taken
  cases same
  obtain rfl := expect?_eq_some_iff.mp found
  simp only [List.mem_cons, List.not_mem_nil, or_false, not_or] at isPlain
  have kept : spaced word = word := spaced_eq_self fun mark member => (isPlain mark member).2.2.2
  refine ⟨.plain_append (fun mark member => ?_) _, ?_⟩
  · obtain ⟨noQuote, noOpening, noClosing, _⟩ := isPlain mark member
    exact ⟨noQuote, noOpening, noClosing⟩
  · dsimp only
    rw [spaced_append, kept, expect?_eq_some_iff.mpr rfl, Option.map_some]

/-- What the readers do with some fuel. -/
structure ReadsRegularly (fuel : Nat) : Prop where
  document : ∀ depth, Regular [] (readDocument? fuel depth)
  items : ∀ depth, Regular [] (readItems? fuel depth)
  entries : ∀ depth mapping, Regular ['}'] (readEntries? fuel depth mapping)

theorem readItems?_regular {fuel : Nat} (inner : ReadsRegularly fuel) (depth : Nat) :
    Regular [] (readItems? (fuel + 1) depth) := by
  intro characters documents rest taken
  obtain ⟨⟨document, behind⟩, read, taken⟩ := Option.bind_eq_some_iff.mp taken
  obtain ⟨passes, same⟩ := inner.document depth _ _ _ read
  rw [readItems?, same]
  dsimp only at taken
  split at taken
  next remaining ahead =>
    cases taken
    obtain ⟨passesOn, sameAhead⟩ := skipSpace_mark (by decide) ahead
    refine ⟨(passes.trans passesOn).trans
      (.plain (by decide) (by decide) (by decide) (.stop _)), ?_⟩
    simp only [Option.bind_eq_bind, Option.bind_some, sameAhead]
  next others ahead =>
    obtain ⟨⟨later, remaining⟩, readLater, taken⟩ := Option.bind_eq_some_iff.mp taken
    cases taken
    obtain ⟨passesOn, sameAhead⟩ := skipSpace_mark (by decide) ahead
    obtain ⟨passesLater, sameLater⟩ := inner.items depth _ _ _ readLater
    refine ⟨(passes.trans passesOn).trans
      (.plain (by decide) (by decide) (by decide) passesLater), ?_⟩
    simp only [Option.bind_eq_bind, Option.bind_some, sameAhead, sameLater]
  next => exact nomatch taken

theorem readEntries?_regular {fuel : Nat} (inner : ReadsRegularly fuel) (depth : Nat)
    (mapping : Mapping) : Regular ['}'] (readEntries? (fuel + 1) depth mapping) := by
  intro characters extended rest taken
  obtain ⟨⟨key, behindKey⟩, readKey, taken⟩ := Option.bind_eq_some_iff.mp taken
  obtain ⟨passesKey, sameKey⟩ := readQuoted?_regular _ _ _ readKey
  rw [readEntries?, skipSpace_spaced, sameKey]
  dsimp only at taken
  split at taken
  next behindColon colon =>
    obtain ⟨⟨document, behind⟩, read, taken⟩ := Option.bind_eq_some_iff.mp taken
    obtain ⟨passesColon, sameColon⟩ := skipSpace_mark (by decide) colon
    obtain ⟨passes, same⟩ := inner.document depth _ _ _ read
    have passesDocument := ((skipSpace_passes characters).trans passesKey).trans
      (passesColon.trans (.plain (by decide) (by decide) (by decide) passes))
    dsimp only at taken
    split at taken
    next remaining ahead =>
      cases taken
      obtain ⟨passesOn, sameAhead⟩ := skipSpace_mark (by decide) ahead
      refine ⟨passesDocument.trans passesOn, ?_⟩
      simp only [Option.bind_eq_bind, Option.bind_some, sameColon, same, sameAhead]
    next others ahead =>
      obtain ⟨passesOn, sameAhead⟩ := skipSpace_mark (by decide) ahead
      obtain ⟨passesLater, sameLater⟩ := inner.entries depth _ _ _ _ taken
      refine ⟨(passesDocument.trans passesOn).trans
        (.plain (by decide) (by decide) (by decide) passesLater), ?_⟩
      simp only [Option.bind_eq_bind, Option.bind_some, sameColon, same, sameAhead, sameLater]
    next => exact nomatch taken
  next => exact nomatch taken

/-- The entries of a mapping are taken together with the brace that closes them. -/
theorem readMapping?_regular {fuel : Nat} (inner : ReadsRegularly fuel) (depth : Nat) :
    Regular ['}'] fun characters => match skipSpace characters with
      | '}' :: remaining => some (Document.mapping [], remaining)
      | entries => (readEntries? fuel depth [] entries).map fun (mapping, remaining) =>
          (.mapping mapping, remaining) := by
  intro characters document rest taken
  dsimp only at taken ⊢
  split at taken
  next remaining ahead =>
    cases taken
    obtain ⟨passes, same⟩ := skipSpace_mark (by decide) ahead
    rw [same]
    exact ⟨passes, rfl⟩
  next notClosed =>
    obtain ⟨⟨mapping, remaining⟩, read, taken⟩ := Option.map_eq_some_iff.mp taken
    cases taken
    obtain ⟨passes, same⟩ := inner.entries depth _ _ _ _ read
    refine ⟨(skipSpace_passes characters).trans passes, ?_⟩
    rw [skipSpace_spaced]
    split
    next closed => exact absurd closed (spaced_ne_cons (by decide) notClosed _)
    next => rw [same, Option.map_some]

theorem readList?_regular {fuel : Nat} (inner : ReadsRegularly fuel) (depth : Nat) :
    Regular [] fun characters => match skipSpace characters with
      | ']' :: remaining => some (Document.list [], remaining)
      | items => (readItems? fuel depth items).map fun (documents, remaining) =>
          (.list documents, remaining) := by
  intro characters document rest taken
  dsimp only at taken ⊢
  split at taken
  next remaining ahead =>
    cases taken
    obtain ⟨passes, same⟩ := skipSpace_mark (by decide) ahead
    rw [same]
    exact ⟨passes.trans (.plain (by decide) (by decide) (by decide) (.stop _)), rfl⟩
  next notClosed =>
    obtain ⟨⟨documents, remaining⟩, read, taken⟩ := Option.map_eq_some_iff.mp taken
    cases taken
    obtain ⟨passes, same⟩ := inner.items depth _ _ _ read
    refine ⟨(skipSpace_passes characters).trans passes, ?_⟩
    rw [skipSpace_spaced]
    split
    next closed => exact absurd closed (spaced_ne_cons (by decide) notClosed _)
    next => rw [same, Option.map_some]

theorem readDocument?_regular {fuel : Nat} (inner : ReadsRegularly fuel) (depth : Nat) :
    Regular [] (readDocument? (fuel + 1) depth) := by
  intro characters document rest taken
  rw [readDocument?] at taken ⊢
  rw [skipSpace_spaced]
  have passesSpace := skipSpace_passes characters
  generalize skipSpace characters = ahead at taken passesSpace ⊢
  split at taken
  next behind =>
    obtain ⟨passes, same⟩ := word_regular "ull".toList (by simp) .null _ _ _ taken
    rw [spaced_cons (by decide)]
    exact ⟨passesSpace.trans (.plain (by decide) (by decide) (by decide) passes), same⟩
  next behind =>
    obtain ⟨passes, same⟩ := word_regular "rue".toList (by simp) _ _ _ _ taken
    rw [spaced_cons (by decide)]
    exact ⟨passesSpace.trans (.plain (by decide) (by decide) (by decide) passes), same⟩
  next behind =>
    obtain ⟨passes, same⟩ := word_regular "alse".toList (by simp) _ _ _ _ taken
    rw [spaced_cons (by decide)]
    exact ⟨passesSpace.trans (.plain (by decide) (by decide) (by decide) passes), same⟩
  next behind =>
    obtain ⟨⟨text, remaining⟩, read, taken⟩ := Option.map_eq_some_iff.mp taken
    cases taken
    obtain ⟨passes, same⟩ := readQuoted?_regular _ _ _ read
    rw [spaced_cons (by decide)] at same ⊢
    refine ⟨passesSpace.trans passes, ?_⟩
    simp only [same, Option.map_some]
  next behind =>
    rw [spaced_cons (by decide)]
    cases depth with
    | zero => exact nomatch taken
    | succ depth =>
      obtain ⟨passes, same⟩ := readList?_regular inner depth _ _ _ taken
      exact ⟨passesSpace.trans (.plain (by decide) (by decide) (by decide) passes), same⟩
  next behind =>
    rw [spaced_cons (by decide)]
    cases depth with
    | zero => exact nomatch taken
    | succ depth =>
      obtain ⟨passes, same⟩ := readMapping?_regular inner depth _ _ _ taken
      exact ⟨passesSpace.trans (.braces passes (.stop _)), same⟩
  next noNull noTrue noFalse noText noList noMapping =>
    obtain ⟨⟨number, remaining⟩, read, taken⟩ := Option.map_eq_some_iff.mp taken
    cases taken
    obtain ⟨passes, same⟩ := Numeral.read?_regular _ _ _ read
    refine ⟨passesSpace.trans passes, ?_⟩
    split
    next first => exact absurd first (spaced_ne_cons (by decide) noNull _)
    next first => exact absurd first (spaced_ne_cons (by decide) noTrue _)
    next first => exact absurd first (spaced_ne_cons (by decide) noFalse _)
    next first => exact absurd first (spaced_ne_cons (by decide) noText _)
    next first => exact absurd first (spaced_ne_cons (by decide) noList _)
    next first => exact absurd first (spaced_ne_cons (by decide) noMapping _)
    next => simp only [same, Option.map_some]

theorem reads_regularly (fuel : Nat) : ReadsRegularly fuel := by
  induction fuel with
  | zero =>
      refine ⟨fun _ _ _ _ taken => ?_, fun _ _ _ _ taken => ?_, fun _ _ _ _ _ taken => ?_⟩ <;>
        exact nomatch taken
  | succ fuel inner =>
      exact ⟨readDocument?_regular inner, readItems?_regular inner, readEntries?_regular inner⟩

section Documents

variable {text : List Char} {document : Document}

theorem document?_eq_some_iff : document? text = some document ↔ ∃ rest,
    readDocument? (2 * text.length + 2) greatestDepth text = some (document, rest) ∧
      skipSpace rest = [] := by
  rw [document?, Option.bind_eq_bind, Option.bind_eq_some_iff]
  constructor
  · rintro ⟨⟨other, rest⟩, taken, finished⟩
    dsimp only at finished
    split at finished
    next isEmpty =>
      cases finished
      exact ⟨rest, taken, List.isEmpty_iff.mp isEmpty⟩
    next => exact nomatch finished
  · rintro ⟨rest, taken, isEmpty⟩
    exact ⟨_, taken, if_pos (List.isEmpty_iff.mpr isEmpty)⟩

/-- A document without its line breaks is the same document. -/
theorem document?_spaced (read : document? text = some document) :
    document? (spaced text) = some document := by
  obtain ⟨rest, taken, finished⟩ := document?_eq_some_iff.mp read
  have same := ((reads_regularly _).document _ _ _ _ taken).2
  refine document?_eq_some_iff.mpr ⟨spaced rest, ?_, ?_⟩
  · rw [length_spaced, same]
  · rw [skipSpace_spaced, finished]
    rfl

/-- An object ends with the brace that closes its first one, and its other braces nest in these. -/
theorem balanced_outer (opens : text.head? = some '{') (closes : text.getLast? = some '}')
    (read : document? text = some document) :
    Balanced (outer text) ∧ text.foldl Place.next .outside = .outside := by
  obtain ⟨rest, taken, finished⟩ := document?_eq_some_iff.mp read
  obtain ⟨behind, rfl⟩ := List.head?_eq_some_iff.mp opens
  obtain ⟨passes, -⟩ := readMapping?_regular (reads_regularly _) _ _ _ _ taken
  obtain ⟨part, rfl, partOutside, nests⟩ := passes.exists_part
  have ends : rest = [] := by
    rcases List.eq_nil_or_concat' rest with isEmpty | ⟨lead, last, rfl⟩
    · exact isEmpty
    · have same : '{' :: (part ++ (['}'] ++ (lead ++ [last]))) =
          ('{' :: (part ++ '}' :: lead)) ++ [last] := by simp
      rw [same, List.getLast?_concat] at closes
      cases closes
      have space := List.dropWhile_eq_nil_iff.mp finished '}' (by simp)
      exact absurd space (by decide)
  subst ends
  have opened : ('{' :: part).foldl Place.next .outside = .outside := partOutside
  have whole : outer ('{' :: (part ++ ['}'])) = '{' :: outer part ++ ['}'] := by
    rw [← List.cons_append, outer, placed_append, opened]
    rfl
  refine ⟨whole ▸ nests.balanced, ?_⟩
  change (part ++ ['}']).foldl Place.next .outside = .outside
  rw [List.foldl_append, partOutside]
  rfl

end Documents

end Reader

end NetworkAutomation
