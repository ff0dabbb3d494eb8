/-
This file writes documents as compact text.
-/

import NetworkAutomation.Document.Basic
import NetworkAutomation.Decimal.Spelling

namespace NetworkAutomation

open NetworkAutomation.Text

def Number.text : Number → String
  | .integer value => integerText value
  | .float value => value.text

/-- This digit stands for a number below sixteen. -/
def hexDigit (value : Nat) : Char :=
  Char.ofNat (if value < 10 then value + 48 else value + 87)

/-- Quotes, backslashes and control characters are escaped, and all else stands for itself. -/
def escapeCharacter (character : Char) : List Char :=
  match character with
  | '"' => ['\\', '"']
  | '\\' => ['\\', '\\']
  | '\x08' => ['\\', 'b']
  | '\x0c' => ['\\', 'f']
  | '\n' => ['\\', 'n']
  | '\r' => ['\\', 'r']
  | '\t' => ['\\', 't']
  | _ =>
      if character.toNat < 0x20 then
        ['\\', 'u', '0', '0', hexDigit (character.toNat / 16), hexDigit (character.toNat % 16)]
      else [character]

def quoteText (text : String) : List Char :=
  '"' :: (text.toList.flatMap escapeCharacter ++ ['"'])

mutual

/-- No blank is written, and entries keep their order. -/
def Document.characters : Document → List Char
  | .null => "null".toList
  | .boolean true => "true".toList
  | .boolean false => "false".toList
  | .number value => value.text.toList
  | .text value => quoteText value
  | .list [] => ['[', ']']
  | .list (item :: rest) => '[' :: (item.characters ++ itemCharacters rest)
  | .mapping [] => ['{', '}']
  | .mapping ((key, document) :: rest) =>
      '{' :: (quoteText key ++ ':' :: (document.characters ++ entryCharacters rest))

def itemCharacters : List Document → List Char
  | [] => [']']
  | item :: rest => ',' :: (item.characters ++ itemCharacters rest)

def entryCharacters : List (String × Document) → List Char
  | [] => ['}']
  | (key, document) :: rest =>
      ',' :: (quoteText key ++ ':' :: (document.characters ++ entryCharacters rest))

end

def Document.render (document : Document) : String :=
  String.ofList document.characters

def Mapping.render (mapping : Mapping) : String :=
  (Document.mapping mapping).render

end NetworkAutomation
