/-
This file spells documents out for hashing, so that the order of mapping keys does not matter.
-/

import NetworkAutomation.Document.Printer

namespace NetworkAutomation

/-- A hash absorbs one byte, one size or one text at a time. -/
inductive Mark where
  | byte (value : UInt8)
  | size (value : Nat)
  | text (value : String)
  deriving DecidableEq

/-- Keyed digests stand in the order of their keys, behind their number. -/
def keyedDigest (digests : List (String × List Mark)) : List Mark :=
  .size digests.length ::
    (digests.mergeSort fun left right => decide (left.1 ≤ right.1)).flatMap fun entry =>
      .text entry.1 :: entry.2

mutual

/-- The first byte tells the sort of the document, and a number is absorbed as its text. -/
def Document.digest : Document → List Mark
  | .null => [.byte 0]
  | .boolean value => [.byte 1, .byte (if value then 1 else 0)]
  | .number value => [.byte 2, .text value.text]
  | .text value => [.byte 3, .text value]
  | .list items => .byte 4 :: .size items.length :: itemDigests items
  | .mapping entries => .byte 5 :: keyedDigest (entryDigests entries)

def itemDigests : List Document → List Mark
  | [] => []
  | item :: rest => item.digest ++ itemDigests rest

def entryDigests : List (String × Document) → List (String × List Mark)
  | [] => []
  | (key, document) :: rest => (key, document.digest) :: entryDigests rest

end

/-- A mapping that stands alone needs no byte for its sort. -/
def Mapping.digest (mapping : Mapping) : List Mark :=
  keyedDigest (entryDigests mapping)

end NetworkAutomation
