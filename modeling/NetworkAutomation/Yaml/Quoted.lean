/-
This file reads the scalars that stand in quotes.
-/

import NetworkAutomation.Text.Numeral
import NetworkAutomation.Yaml.Cursor

namespace NetworkAutomation.Yaml.Quoted

open NetworkAutomation.Text (hexValue?)

/-- Single quotes know one escape, which is the doubled quote. -/
inductive Style where
  | single
  | double
  deriving DecidableEq

def Style.quote : Style → Char
  | .single => '\''
  | .double => '"'

/-- The value of the given number of hexadecimal digits. -/
def hexadecimal? (count : Nat) (characters : List Char) : Option Nat :=
  if (characters.take count).length = count then
    (characters.take count).foldl
      (fun value? character => do
        let value ← value?
        let digit ← hexValue? character
        some (16 * value + digit)) (some 0)
  else none

/-- Surrogates and numbers beyond the last character are refused. -/
def characterOf? (code : Nat) : Option Char :=
  if (0xD800 ≤ code ∧ code ≤ 0xDFFF) ∨ 0x10FFFF < code then none else some (Char.ofNat code)

/-- One letter behind a backslash stands for one character. -/
def simpleEscape? : Char → Option Char
  | '0' => some '\x00'
  | 'a' => some '\x07'
  | 'b' => some '\x08'
  | 't' => some '\t'
  | '\t' => some '\t'
  | 'n' => some '\n'
  | 'v' => some '\x0b'
  | 'f' => some '\x0c'
  | 'r' => some '\r'
  | 'e' => some '\x1b'
  | ' ' => some ' '
  | '"' => some '"'
  | '/' => some '/'
  | '\\' => some '\\'
  | 'N' => some '\u0085'
  | '_' => some '\u00a0'
  | 'L' => some '\u2028'
  | 'P' => some '\u2029'
  | _ => none

/-- Three letters announce a character by two, four or eight hexadecimal digits. -/
def escapeLength? : Char → Option Nat
  | 'x' => some 2
  | 'u' => some 4
  | 'U' => some 8
  | _ => none

/-- The character behind a backslash, and how many characters write it. -/
def readEscape? : List Char → Option (Char × Nat)
  | [] => none
  | letter :: rest =>
      match simpleEscape? letter with
      | some character => some (character, 1)
      | none => do
          let count ← escapeLength? letter
          let character ← characterOf? (← hexadecimal? count rest)
          some (character, count + 1)

/-- A word of a quoted scalar, and whether an escaped line break ends it. -/
structure Word where
  text : List Char
  escapedBreak : Bool
  cursor : Cursor

def readWord? (style : Style) : Nat → List Char → Cursor → Option Word
  | 0, _, _ => none
  | fuel + 1, text, cursor =>
      match cursor.rest with
      | [] => some ⟨text, false, cursor⟩
      | character :: rest =>
          if isGap character then some ⟨text, false, cursor⟩
          else match style with
            | .single =>
                if character == '\'' then
                  match rest with
                  | '\'' :: _ => readWord? style fuel (text ++ ['\'']) (cursor.advance 2)
                  | _ => some ⟨text, false, cursor⟩
                else readWord? style fuel (text ++ [character]) (cursor.advance 1)
            | .double =>
                if character == '"' then some ⟨text, false, cursor⟩
                else if character == '\\' then
                  let behind := cursor.advance 1
                  match rest with
                  | [] => none
                  | next :: _ =>
                      if isBreak next then some ⟨text, true, behind.readBreak.2⟩
                      else do
                        let (escaped, length) ← readEscape? rest
                        readWord? style fuel (text ++ [escaped]) (behind.advance length)
                else readWord? style fuel (text ++ [character]) (cursor.advance 1)

/-- Words are joined by the folded gaps between them up to the closing quote. -/
def continue? (style : Style) : Nat → List Char → Cursor → Option (List Char × Cursor)
  | 0, _, _ => none
  | fuel + 1, text, cursor =>
      if cursor.atDocumentMarker || cursor.atEnd then none
      else do
        let word ← readWord? style (cursor.rest.length + 1) text cursor
        if word.cursor.startsWith style.quote then some (word.text, word.cursor.advance 1)
        else do
          let start : Gap := { Gap.none with broken := word.escapedBreak }
          let (gap, next) ← start.read? 0 word.cursor.rest.length word.cursor
          continue? style fuel (word.text ++ gap.fold) next

/-- The cursor stands at the opening quote. -/
def read? (style : Style) (cursor : Cursor) : Option (List Char × Cursor) :=
  continue? style (cursor.rest.length + 1) [] (cursor.advance 1)

end NetworkAutomation.Yaml.Quoted
