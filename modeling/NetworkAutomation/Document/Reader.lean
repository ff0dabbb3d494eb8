/-
This file reads documents from text.
-/

import NetworkAutomation.Document.Numeral

namespace NetworkAutomation.Reader

open NetworkAutomation.Text

/-- Four characters may stand between the parts of document text. -/
def isSpace (character : Char) : Bool :=
  character == ' ' || character == '\n' || character == '\t' || character == '\r'

def skipSpace (characters : List Char) : List Char :=
  characters.dropWhile isSpace

/-- A unit is written in four hexadecimal digits. -/
def readUnit? : List Char → Option (Nat × List Char)
  | first :: second :: third :: fourth :: rest => do
      let high := 16 * (← hexValue? first) + (← hexValue? second)
      let low := 16 * (← hexValue? third) + (← hexValue? fourth)
      some (256 * high + low, rest)
  | _ => none

/-- A character beyond the first plane is written as a leading and a trailing unit. -/
def readUnits? (characters : List Char) : Option (Char × List Char) := do
  let (unit, rest) ← readUnit? characters
  if 0xD800 ≤ unit ∧ unit < 0xDC00 then
    match rest with
    | '\\' :: 'u' :: behind => do
        let (trailing, remaining) ← readUnit? behind
        if 0xDC00 ≤ trailing ∧ trailing < 0xE000 then
          some (Char.ofNat (0x10000 + 1024 * (unit - 0xD800) + (trailing - 0xDC00)), remaining)
        else none
    | _ => none
  else if 0xDC00 ≤ unit ∧ unit < 0xE000 then none
  else some (Char.ofNat unit, rest)

/-- This function reads what follows a backslash. -/
def readEscape? : List Char → Option (Char × List Char)
  | '"' :: rest => some ('"', rest)
  | '\\' :: rest => some ('\\', rest)
  | '/' :: rest => some ('/', rest)
  | 'b' :: rest => some ('\x08', rest)
  | 'f' :: rest => some ('\x0c', rest)
  | 'n' :: rest => some ('\n', rest)
  | 'r' :: rest => some ('\r', rest)
  | 't' :: rest => some ('\t', rest)
  | 'u' :: rest => readUnits? rest
  | _ => none

/-- The characters up to the closing quote; a bare control character is refused. -/
def readString? : Nat → List Char → Option (List Char × List Char)
  | _, '"' :: rest => some ([], rest)
  | fuel + 1, '\\' :: rest => do
      let (character, behind) ← readEscape? rest
      let (text, remaining) ← readString? fuel behind
      some (character :: text, remaining)
  | fuel + 1, character :: rest =>
      if character.toNat < 0x20 then none
      else do
        let (text, remaining) ← readString? fuel rest
        some (character :: text, remaining)
  | _, _ => none

def readQuoted? (characters : List Char) : Option (String × List Char) :=
  match characters with
  | '"' :: rest => (readString? rest.length rest).map fun (text, remaining) =>
      (String.ofList text, remaining)
  | _ => none

/-- This function drops the expected characters from the front. -/
def expect? : List Char → List Char → Option (List Char)
  | [], characters => some characters
  | expected :: pattern, character :: rest =>
      if expected = character then expect? pattern rest else none
  | _ :: _, [] => none

/-- Containers nest at most this many times. -/
def greatestDepth : Nat := 127

mutual

/-- One document from the front of the characters; each step of the fuel consumes one of them. -/
def readDocument? : Nat → Nat → List Char → Option (Document × List Char)
  | 0, _, _ => none
  | fuel + 1, depth, characters =>
      match skipSpace characters with
      | 'n' :: rest => (expect? "ull".toList rest).map fun remaining => (.null, remaining)
      | 't' :: rest => (expect? "rue".toList rest).map fun remaining => (.boolean true, remaining)
      | 'f' :: rest => (expect? "alse".toList rest).map fun remaining => (.boolean false, remaining)
      | '"' :: rest => (readQuoted? ('"' :: rest)).map fun (text, remaining) =>
          (.text text, remaining)
      | '[' :: rest =>
          match depth with
          | 0 => none
          | inner + 1 =>
              match skipSpace rest with
              | ']' :: remaining => some (.list [], remaining)
              | items => (readItems? fuel inner items).map fun (documents, remaining) =>
                  (.list documents, remaining)
      | '{' :: rest =>
          match depth with
          | 0 => none
          | inner + 1 =>
              match skipSpace rest with
              | '}' :: remaining => some (.mapping [], remaining)
              | entries => (readEntries? fuel inner [] entries).map fun (mapping, remaining) =>
                  (.mapping mapping, remaining)
      | rest => (Numeral.read? rest).map fun (number, remaining) => (.number number, remaining)

/-- The items of a list up to its closing bracket. -/
def readItems? : Nat → Nat → List Char → Option (List Document × List Char)
  | 0, _, _ => none
  | fuel + 1, depth, characters => do
      let (document, behind) ← readDocument? fuel depth characters
      match skipSpace behind with
      | ']' :: remaining => some ([document], remaining)
      | ',' :: rest => do
          let (documents, remaining) ← readItems? fuel depth rest
          some (document :: documents, remaining)
      | _ => none

/-- The entries of a mapping up to its closing brace; a repeated key takes its last document. -/
def readEntries? : Nat → Nat → Mapping → List Char → Option (Mapping × List Char)
  | 0, _, _, _ => none
  | fuel + 1, depth, mapping, characters => do
      let (key, behindKey) ← readQuoted? (skipSpace characters)
      match skipSpace behindKey with
      | ':' :: behindColon => do
          let (document, behind) ← readDocument? fuel depth behindColon
          let extended := mapping.insert key document
          match skipSpace behind with
          | '}' :: remaining => some (extended, remaining)
          | ',' :: rest => readEntries? fuel depth extended rest
          | _ => none
      | _ => none

end

/-- The whole text is one document with space around it. -/
def document? (text : List Char) : Option Document := do
  let (document, rest) ← readDocument? (2 * text.length + 2) greatestDepth text
  if (skipSpace rest).isEmpty then some document else none

end NetworkAutomation.Reader

namespace NetworkAutomation

def Document.read? (text : String) : Option Document :=
  Reader.document? text.toList

end NetworkAutomation
