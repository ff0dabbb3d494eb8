/-
This file holds the tokens of a YAML text and reads the properties and directives among them.
-/

import NetworkAutomation.Text.Numeral
import NetworkAutomation.Yaml.Cursor

namespace NetworkAutomation.Yaml

/-- The end of the token list stands for the end of the text. -/
inductive Token where
  | versionDirective (major minor : Nat)
  | tagDirective (handle lead : List Char)
  | documentStart
  | documentEnd
  | blockSequenceStart
  | blockMappingStart
  | blockEnd
  | flowSequenceStart
  | flowSequenceEnd
  | flowMappingStart
  | flowMappingEnd
  | blockEntry
  | flowEntry
  | key
  | value
  | reference (name : List Char)
  | anchor (name : List Char)
  | tag (handle rest : List Char)
  | scalar (text : List Char) (plain : Bool)
  deriving DecidableEq

namespace Property

open NetworkAutomation.Text (hexValue?)

/-- These characters may stand in a tag; a tag in angle brackets admits three more. -/
def isTagCharacter (bracketed : Bool) (character : Char) : Bool :=
  isWordCharacter character || ";/?:@&=+$.%!~*'()".toList.contains character ||
    (bracketed && ",[]".toList.contains character)

/-- An escaped octet is a percent sign and two hexadecimal digits. -/
def readOctet? : List Char → Option (Nat × List Char)
  | '%' :: high :: low :: rest => do
      some (16 * (← hexValue? high) + (← hexValue? low), rest)
  | _ => none

/-- The leading octet tells how many octets follow and contributes its low bits. -/
def octetShape? (octet : Nat) : Option (Nat × Nat) :=
  if octet < 0x80 then some (0, octet)
  else if octet / 0x20 = 6 then some (1, octet % 0x20)
  else if octet / 0x10 = 14 then some (2, octet % 0x10)
  else if octet / 0x08 = 30 then some (3, octet % 0x08)
  else none

def readTrailing? : Nat → Nat → List Char → Option (Nat × List Char)
  | 0, value, rest => some (value, rest)
  | count + 1, value, characters => do
      let (octet, rest) ← readOctet? characters
      if octet / 0x40 = 2 then readTrailing? count (64 * value + octet % 0x40) rest else none

/-- An escaped character is written as the octets of its encoding. -/
def readEscaped? (characters : List Char) : Option (Char × List Char) := do
  let (octet, rest) ← readOctet? characters
  let (count, bits) ← octetShape? octet
  let (code, remaining) ← readTrailing? count bits rest
  some (Char.ofNat code, remaining)

/-- The characters of a tag with their escapes resolved. -/
def readTagText? (bracketed : Bool) : Nat → List Char → Option (List Char × List Char)
  | 0, characters => some ([], characters)
  | _ + 1, [] => some ([], [])
  | fuel + 1, character :: rest =>
      if isTagCharacter bracketed character then do
        let (read, behind) ←
          if character == '%' then readEscaped? (character :: rest) else some (character, rest)
        let (text, remaining) ← readTagText? bracketed fuel behind
        some (read :: text, remaining)
      else some ([], character :: rest)

/-- The cursor moves to the given rest of its line. -/
def moveTo (cursor : Cursor) (rest : List Char) : Cursor :=
  cursor.advance (cursor.rest.length - rest.length)

def readTag? (bracketed : Bool) (cursor : Cursor) : Option (List Char × Cursor) := do
  let (text, rest) ← readTagText? bracketed cursor.rest.length cursor.rest
  some (text, moveTo cursor rest)

/-- A handle is a bang, a word, and a second bang where there is one. -/
def readHandle? (cursor : Cursor) : Option (List Char × Cursor) :=
  match cursor.rest with
  | '!' :: rest =>
      let word := rest.takeWhile isWordCharacter
      let behind := cursor.advance (word.length + 1)
      if behind.startsWith '!' then some ('!' :: (word ++ ['!']), behind.advance 1)
      else some ('!' :: word, behind)
  | _ => none

def isClosedHandle (handle : List Char) : Bool :=
  2 ≤ handle.length && handle.getLast? == some '!'

/-- A tag ends at a gap, or at a comma inside a flow collection. -/
def endsTag (flow : Bool) (cursor : Cursor) : Bool :=
  startsGap cursor.rest || (flow && cursor.startsWith ',')

/-- The lone bang is a tag without a handle. -/
def shortTag (text : List Char) : Token :=
  if text.isEmpty then .tag [] ['!'] else .tag ['!'] text

def readTagToken? (flow : Bool) (cursor : Cursor) : Option (Token × Cursor) := do
  let (token, behind) ←
    match cursor.rest with
    | '!' :: '<' :: _ => do
        let (text, behind) ← readTag? true (cursor.advance 2)
        if text.isEmpty || !behind.startsWith '>' then none
        else some (Token.tag [] text, behind.advance 1)
    | _ => do
        let (handle, behindHandle) ← readHandle? cursor
        let (text, behind) ← readTag? false behindHandle
        if isClosedHandle handle then
          if text.isEmpty then none else some (Token.tag handle text, behind)
        else some (shortTag (handle.drop 1 ++ text), behind)
  if endsTag flow behind then some (token, behind) else none

/-- A name of an anchor ends at a gap or at one of eight indicators. -/
def endsAnchor (cursor : Cursor) : Bool :=
  match cursor.rest with
  | [] => true
  | character :: _ => isGap character || "?:,]\x7d%@".toList.contains character ||
      character == '\x60'

/-- The cursor stands at the indicator in front of the name. -/
def readAnchor? (cursor : Cursor) : Option (List Char × Cursor) :=
  let name := (cursor.rest.drop 1).takeWhile isWordCharacter
  let behind := cursor.advance (name.length + 1)
  if name.isEmpty || !endsAnchor behind then none else some (name, behind)

/-- Versions with ten digits or more are refused. -/
def readVersionPart? (cursor : Cursor) : Option (Nat × Cursor) :=
  let digits := cursor.rest.takeWhile fun character => '0' ≤ character && character ≤ '9'
  if digits.isEmpty || 9 < digits.length then none
  else
    some (digits.foldl (fun value digit => 10 * value + (digit.toNat - 48)) 0,
      cursor.advance digits.length)

def readVersion? (cursor : Cursor) : Option (Token × Cursor) := do
  let (major, behindMajor) ← readVersionPart? cursor.skipBlanks
  if behindMajor.startsWith '.' then do
    let (minor, behind) ← readVersionPart? (behindMajor.advance 1)
    some (.versionDirective major minor, behind)
  else none

/-- A directive binds a handle to the text that stands for it. -/
def readTagBinding? (cursor : Cursor) : Option (Token × Cursor) := do
  let (handle, behindHandle) ← readHandle? cursor.skipBlanks
  if handle.length ≠ 1 && !isClosedHandle handle then none
  else if !((behindHandle.rest.head?.map isBlank).getD false) then none
  else do
    let (lead, behind) ← readTag? true behindHandle.skipBlanks
    if lead.isEmpty || !startsGap behind.rest then none
    else some (.tagDirective handle lead, behind)

/-- The cursor stands at the percent sign, and only two directives are known. -/
def readDirective? (cursor : Cursor) : Option (Token × Cursor) := do
  let name := (cursor.rest.drop 1).takeWhile isWordCharacter
  let behindName := cursor.advance (name.length + 1)
  if !startsGap behindName.rest then none
  else do
    let (token, behind) ←
      if name = "YAML".toList then readVersion? behindName
      else if name = "TAG".toList then readTagBinding? behindName
      else none
    let next ← behind.finishLine?
    some (token, next)

end Property

end NetworkAutomation.Yaml
