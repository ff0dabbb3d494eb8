/-
This file reads the scalars that stand without quotes.
-/

import NetworkAutomation.Yaml.Cursor

namespace NetworkAutomation.Yaml.Plain

/-- In a flow collection a colon may not touch one of these characters. -/
def refusesColon : List Char → Bool
  | [] => false
  | character :: _ => isFlowIndicator character || character == '?'

/-- A colon before a gap ends a word, and so do the indicators of a surrounding flow collection. -/
def takeWord? (flow : Bool) : List Char → Option (List Char)
  | [] => some []
  | character :: rest =>
      if isGap character then some []
      else if flow && character == ':' && refusesColon rest then none
      else if (character == ':' && startsGap rest) || (flow && isFlowIndicator character) then
        some []
      else (takeWord? flow rest).map (character :: ·)

/-- The text that was read, and whether line breaks follow it. -/
structure Result where
  text : List Char
  broken : Bool
  cursor : Cursor

/-- Words are joined by the folded gaps between them. -/
def continue? (flow : Bool) (floor : Int) : Nat → List Char → Gap → Cursor → Option Result
  | 0, text, gap, cursor => some ⟨text, gap.broken, cursor⟩
  | fuel + 1, text, gap, cursor =>
      if cursor.atDocumentMarker || cursor.startsWith '#' then
        some ⟨text, gap.broken, cursor⟩
      else do
        let word ← takeWord? flow cursor.rest
        let behind := cursor.advance word.length
        let (text, gap) :=
          if word.isEmpty then (text, gap) else (text ++ gap.fold ++ word, Gap.none)
        match behind.rest with
        | [] => some ⟨text, gap.broken, behind⟩
        | character :: _ =>
            if isGap character then do
              let (wider, next) ← gap.read? floor behind.rest.length behind
              if !flow && (next.column : Int) < floor then
                some ⟨text, wider.broken, next⟩
              else continue? flow floor fuel text wider next
            else some ⟨text, gap.broken, behind⟩

/-- The floor is the least column of a continuation line outside flow collections. -/
def read? (flow : Bool) (floor : Int) (cursor : Cursor) : Option Result :=
  continue? flow floor (cursor.rest.length + 1) [] Gap.none cursor

end NetworkAutomation.Yaml.Plain
