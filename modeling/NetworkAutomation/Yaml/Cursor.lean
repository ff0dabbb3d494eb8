/-
This file walks over the characters of a YAML text and keeps track of the place.
-/

namespace NetworkAutomation.Yaml

/-- Only these characters may stand in a text. -/
def isAllowed (character : Char) : Bool :=
  let code := character.toNat
  code == 0x09 || code == 0x0A || code == 0x0D || (0x20 ≤ code && code ≤ 0x7E) || code == 0x85 ||
    (0xA0 ≤ code && code ≤ 0xD7FF) || (0xE000 ≤ code && code ≤ 0xFFFD) ||
    (0x10000 ≤ code && code ≤ 0x10FFFF)

def isBlank (character : Char) : Bool :=
  character == ' ' || character == '\t'

/-- Five characters end a line. -/
def isBreak (character : Char) : Bool :=
  character == '\n' || character == '\r' || character == '\u0085' || character == '\u2028' ||
    character == '\u2029'

def isGap (character : Char) : Bool :=
  isBlank character || isBreak character

/-- The end of the text counts as a gap. -/
def startsGap : List Char → Bool
  | [] => true
  | character :: _ => isGap character

/-- These characters form the names of anchors, handles and directives. -/
def isWordCharacter (character : Char) : Bool :=
  ('0' ≤ character && character ≤ '9') || ('A' ≤ character && character ≤ 'Z') ||
    ('a' ≤ character && character ≤ 'z') || character == '_' || character == '-'

def isFlowIndicator (character : Char) : Bool :=
  character == ',' || character == '[' || character == ']' || character == '\x7b' ||
    character == '\x7d'

/-- A cursor holds the characters ahead and the place of the first of them. -/
structure Cursor where
  rest : List Char
  index : Nat
  line : Nat
  column : Nat

namespace Cursor

/-- This function passes over characters that end no line. -/
def advance (cursor : Cursor) (count : Nat) : Cursor :=
  { cursor with
    rest := cursor.rest.drop count
    index := cursor.index + count
    column := cursor.column + count }

/-- The selected characters must end no line. -/
def skipWhile (cursor : Cursor) (selected : Char → Bool) : Cursor :=
  cursor.advance (cursor.rest.takeWhile selected).length

def skipBlanks (cursor : Cursor) : Cursor :=
  cursor.skipWhile isBlank

def skipToBreak (cursor : Cursor) : Cursor :=
  cursor.skipWhile fun character => !isBreak character

def atEnd (cursor : Cursor) : Bool :=
  cursor.rest.isEmpty

/-- The cursor stands at the end of a line or of the text. -/
def atLineEnd (cursor : Cursor) : Bool :=
  match cursor.rest with
  | [] => true
  | character :: _ => isBreak character

def startsWith (cursor : Cursor) (expected : Char) : Bool :=
  cursor.rest.head? == some expected

def newLine (cursor : Cursor) (count : Nat) : Cursor :=
  { rest := cursor.rest.drop count
    index := cursor.index + count
    line := cursor.line + 1
    column := 0 }

/--
This function reads one line break. The common breaks are read as a line feed, and the two
separators stand for themselves.
-/
def readBreak (cursor : Cursor) : List Char × Cursor :=
  match cursor.rest with
  | '\r' :: '\n' :: _ => (['\n'], cursor.newLine 2)
  | character :: _ =>
      if character == '\u2028' || character == '\u2029' then ([character], cursor.newLine 1)
      else if isBreak character then (['\n'], cursor.newLine 1)
      else ([], cursor)
  | [] => ([], cursor)

/-- A comment lasts to the end of its line. -/
def skipComment (cursor : Cursor) : Cursor :=
  if cursor.startsWith '#' then cursor.skipToBreak else cursor

/-- Nothing but blanks and a comment may stand on the rest of the line. -/
def finishLine? (cursor : Cursor) : Option Cursor :=
  let behind := cursor.skipBlanks.skipComment
  if behind.atLineEnd then some behind.readBreak.2 else none

/-- A marker of three characters in the first column bounds a document. -/
def atMarker (cursor : Cursor) (marker : Char) : Bool :=
  cursor.column == 0 &&
    match cursor.rest with
    | first :: second :: third :: behind =>
        first == marker && second == marker && third == marker && startsGap behind
    | _ => false

def atDocumentMarker (cursor : Cursor) : Bool :=
  cursor.atMarker '-' || cursor.atMarker '.'

end Cursor

/-- A gap holds the blanks of one line, or the line breaks between two words. -/
structure Gap where
  blanks : List Char
  firstBreak : List Char
  laterBreaks : List Char
  broken : Bool

namespace Gap

def none : Gap := ⟨[], [], [], false⟩

/-- One line break folds into a space, and further breaks stand for themselves. -/
def fold (gap : Gap) : List Char :=
  if gap.broken then
    if gap.firstBreak = ['\n'] then
      if gap.laterBreaks.isEmpty then [' '] else gap.laterBreaks
    else gap.firstBreak ++ gap.laterBreaks
  else gap.blanks

/--
Blanks behind a break are dropped. A tab behind a break and in front of the given column is
refused, because tabs do not indent.
-/
def read? (floor : Int) : Nat → Gap → Cursor → Option (Gap × Cursor)
  | 0, gap, cursor => some (gap, cursor)
  | fuel + 1, gap, cursor =>
      match cursor.rest with
      | [] => some (gap, cursor)
      | character :: _ =>
          if isBlank character then
            if gap.broken then
              if character == '\t' && (cursor.column : Int) < floor then Option.none
              else read? floor fuel gap (cursor.advance 1)
            else
              read? floor fuel { gap with blanks := gap.blanks ++ [character] } (cursor.advance 1)
          else if isBreak character then
            let (lineBreak, next) := cursor.readBreak
            if gap.broken then
              read? floor fuel { gap with laterBreaks := gap.laterBreaks ++ lineBreak } next
            else
              read? floor fuel
                { gap with blanks := [], firstBreak := lineBreak, broken := true } next
          else some (gap, cursor)

end Gap

end NetworkAutomation.Yaml
