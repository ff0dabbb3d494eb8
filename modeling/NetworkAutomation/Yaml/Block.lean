/-
This file reads the block scalars, whose lines are held together by their indentation.
-/

import NetworkAutomation.Yaml.Cursor

namespace NetworkAutomation.Yaml.Block

/-- The final line breaks are dropped, clipped to one, or kept. -/
inductive Chomping where
  | strip
  | clip
  | keep

structure Header where
  chomping : Chomping
  /-- The declared indentation beyond that of the surrounding block. -/
  increment : Option Nat

def chompingOf? : Char → Option Chomping
  | '+' => some .keep
  | '-' => some .strip
  | _ => none

/-- Zero is no indentation. -/
def incrementOf? (character : Char) : Option (Option Nat) :=
  if character == '0' then some none
  else if '1' ≤ character ∧ character ≤ '9' then some (some (character.toNat - 48))
  else none

/-- The two parts of the header stand in either order, and each may be missing. -/
def readHeader? (cursor : Cursor) : Option (Header × Cursor) :=
  match cursor.rest with
  | [] => some (⟨.clip, none⟩, cursor)
  | first :: rest =>
      match chompingOf? first with
      | some chomping =>
          match rest.head?.bind incrementOf? with
          | some (some increment) => some (⟨chomping, some increment⟩, cursor.advance 2)
          | some none => none
          | none => some (⟨chomping, none⟩, cursor.advance 1)
      | none =>
          match incrementOf? first with
          | some (some increment) =>
              match rest.head?.bind chompingOf? with
              | some chomping => some (⟨chomping, some increment⟩, cursor.advance 2)
              | none => some (⟨.clip, some increment⟩, cursor.advance 1)
          | some none => none
          | none => some (⟨.clip, none⟩, cursor)

/-- The empty lines ahead, and the deepest column that their spaces reach. -/
structure Lines where
  breaks : List Char
  deepest : Nat
  cursor : Cursor

/-- Spaces are skipped up to the indentation, or all of them while it is unknown. -/
def skipIndentation (indentation : Option Nat) (cursor : Cursor) : Cursor :=
  let spaces := (cursor.rest.takeWhile (· == ' ')).length
  match indentation with
  | some column => cursor.advance (min spaces (column - cursor.column))
  | none => cursor.advance spaces

/-- A tab where an indentation space could stand is refused. -/
def readEmptyLines? (indentation : Option Nat) : Nat → Lines → Option Lines
  | 0, lines => some lines
  | fuel + 1, lines =>
      let cursor := skipIndentation indentation lines.cursor
      let deepest := max lines.deepest cursor.column
      let shallow := match indentation with
        | some column => cursor.column < column
        | none => true
      if shallow && cursor.startsWith '\t' then none
      else
        match cursor.rest with
        | [] => some ⟨lines.breaks, deepest, cursor⟩
        | character :: _ =>
            if isBreak character then
              let (lineBreak, next) := cursor.readBreak
              readEmptyLines? indentation fuel ⟨lines.breaks ++ lineBreak, deepest, next⟩
            else some ⟨lines.breaks, deepest, cursor⟩

def emptyLines? (indentation : Option Nat) (cursor : Cursor) : Option Lines :=
  readEmptyLines? indentation (cursor.rest.length + 1) ⟨[], 0, cursor⟩

/-- The text so far, the break that ended its last line, and the empty lines behind that break. -/
structure Progress where
  text : List Char
  leadingBreak : List Char
  emptyBreaks : List Char
  /-- The last line began with a blank, so its break is not folded. -/
  indentedMore : Bool
  cursor : Cursor

/-- A folded scalar joins two lines unless one of them begins with a blank. -/
def Progress.joined (progress : Progress) (literal indentedMore : Bool) : List Char :=
  if !literal && progress.leadingBreak == ['\n'] && !progress.indentedMore && !indentedMore then
    if progress.emptyBreaks.isEmpty then [' '] else progress.emptyBreaks
  else progress.leadingBreak ++ progress.emptyBreaks

def readLines? (literal : Bool) (indentation : Nat) : Nat → Progress → Option Progress
  | 0, progress => some progress
  | fuel + 1, progress =>
      if progress.cursor.column = indentation then
        match progress.cursor.rest with
        | [] => some progress
        | character :: _ => do
            let indentedMore := isBlank character
            let line := progress.cursor.rest.takeWhile fun next => !isBreak next
            let (lineBreak, next) := (progress.cursor.advance line.length).readBreak
            let lines ← emptyLines? (some indentation) next
            readLines? literal indentation fuel {
              text := progress.text ++ progress.joined literal indentedMore ++ line
              leadingBreak := lineBreak
              emptyBreaks := lines.breaks
              indentedMore := indentedMore
              cursor := lines.cursor }
      else some progress

def Chomping.apply (chomping : Chomping) (progress : Progress) : List Char :=
  match chomping with
  | .strip => progress.text
  | .clip => progress.text ++ progress.leadingBreak
  | .keep => progress.text ++ progress.leadingBreak ++ progress.emptyBreaks

/-- Without a declared indentation the deepest of the leading lines decides. -/
def detectIndentation (parent : Int) (lines : Lines) : Nat :=
  max (max lines.deepest (parent + 1).toNat) 1

/-- The cursor stands behind the indicator, and the parent is the surrounding indentation. -/
def read? (literal : Bool) (parent : Int) (cursor : Cursor) : Option (List Char × Cursor) := do
  let (header, behindHeader) ← readHeader? cursor
  let behindLine ← behindHeader.finishLine?
  let declared := header.increment.map fun increment =>
    if 0 ≤ parent then parent.toNat + increment else increment
  let lines ← emptyLines? declared behindLine
  let indentation := declared.getD (detectIndentation parent lines)
  let progress ← readLines? literal indentation (lines.cursor.rest.length + 1)
    ⟨[], [], lines.breaks, false, lines.cursor⟩
  some (header.chomping.apply progress, progress.cursor)

end NetworkAutomation.Yaml.Block
