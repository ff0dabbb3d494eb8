/-
This file arranges the tokens of a YAML text into the tree of its one document.
-/

import NetworkAutomation.Yaml.Token

namespace NetworkAutomation.Yaml

/-- An alias refers to an anchor by its number. -/
inductive Node where
  | reference (anchor : Nat)
  | scalar (tag : Option (List Char)) (text : List Char) (plain : Bool)
  | sequence (tag : Option (List Char)) (items : List Node)
  | mapping (tag : Option (List Char)) (entries : List (Node × Node))

namespace Node

/-- A missing node is an empty plain scalar. -/
def empty : Node := .scalar none [] true

end Node

/-- An anchored node remembers its number and where it began. -/
structure Anchored where
  number : Nat
  place : Nat
  node : Node

/-- The names that were anchored so far, and how many marks began or ended a node. -/
structure Ledger where
  names : List (List Char × Nat)
  places : Nat
  anchored : List Anchored

/-- The state of the arrangement is the tokens ahead and the ledger of anchors. -/
structure Arrangement where
  tokens : List Token
  ledger : Ledger

abbrev Arrange (α : Type) := StateT Arrangement Option α

namespace Arrange

def fail {α : Type} : Arrange α := fun _ => none

def peek : Arrange (Option Token) := do
  return (← get).tokens.head?

def skip : Arrange Unit :=
  modify fun state => { state with tokens := state.tokens.drop 1 }

/-- Each mark of a node takes one place. -/
def mark : Arrange Unit :=
  modify fun state => { state with
    ledger := { state.ledger with places := state.ledger.places + 1 } }

/--
A name is numbered by how many distinct names stand before it, so a name that is anchored again
takes a number that the next new name shares.
-/
def register (name : List Char) : Arrange Nat := do
  let state ← get
  let number := state.ledger.names.length
  let others := state.ledger.names.filter fun entry => entry.1 != name
  set { state with ledger := { state.ledger with names := (name, number) :: others } }
  return number

def resolve (name : List Char) : Arrange Nat := do
  match (← get).ledger.names.find? fun entry => entry.1 == name with
  | some entry => return entry.2
  | none => fail

def anchor (number place : Nat) (node : Node) : Arrange Unit :=
  modify fun state => { state with
    ledger := { state.ledger with anchored := ⟨number, place, node⟩ :: state.ledger.anchored } }

end Arrange

/-- A handle stands for the text that a directive binds to it. -/
abbrev Handles := List (List Char × List Char)

/-- Two handles are bound from the start. -/
def standardHandles : Handles :=
  [("!".toList, "!".toList), ("!!".toList, "tag:yaml.org,2002:".toList)]

/-- The bindings of the text come first, so they win over the standard ones. -/
def expandTag? (handles : Handles) (handle rest : List Char) : Option (List Char) :=
  if handle.isEmpty then some rest
  else (handles.find? fun entry => entry.1 == handle).map fun entry => entry.2 ++ rest

/-- An anchor and a tag may stand before a node in either order. -/
structure Properties where
  anchor : Option (List Char)
  tag : Option (List Char × List Char)

def readProperties : Arrange Properties := do
  match ← Arrange.peek with
  | some (.anchor name) =>
      Arrange.skip
      match ← Arrange.peek with
      | some (.tag handle rest) =>
          Arrange.skip
          return ⟨some name, some (handle, rest)⟩
      | _ => return ⟨some name, none⟩
  | some (.tag handle rest) =>
      Arrange.skip
      match ← Arrange.peek with
      | some (.anchor name) =>
          Arrange.skip
          return ⟨some name, some (handle, rest)⟩
      | _ => return ⟨none, some (handle, rest)⟩
  | _ => return ⟨none, none⟩

/-- The lone bang in front of a scalar says no more than a missing tag. -/
def scalarNode (tag : Option (List Char)) (text : List Char) (plain : Bool) : Node :=
  .scalar (if tag = some ['!'] then none else tag) text plain

/-- These tokens end an item of a block collection, which is empty where nothing precedes them. -/
def endsBlockEntry : Option Token → Bool
  | some .blockEntry => true
  | some .blockEnd => true
  | _ => false

def endsIndentlessEntry : Option Token → Bool
  | some .blockEntry => true
  | some .key => true
  | some .value => true
  | some .blockEnd => true
  | _ => false

def endsBlockPart : Option Token → Bool
  | some .key => true
  | some .value => true
  | some .blockEnd => true
  | _ => false

def endsFlowKey : Option Token → Bool
  | some .value => true
  | some .flowEntry => true
  | some .flowMappingEnd => true
  | _ => false

def endsFlowValue : Option Token → Bool
  | some .flowEntry => true
  | some .flowMappingEnd => true
  | _ => false

def endsPairKey : Option Token → Bool
  | some .value => true
  | some .flowEntry => true
  | some .flowSequenceEnd => true
  | _ => false

def endsPairValue : Option Token → Bool
  | some .flowEntry => true
  | some .flowSequenceEnd => true
  | _ => false

def emptyNode : Arrange Node := do
  Arrange.mark
  return .empty

/-- Properties without a node stand before an empty scalar. -/
def arrangeBare (properties : Properties) (tag : Option (List Char)) : Arrange Node :=
  if properties.anchor.isSome || tag.isSome then do
    Arrange.mark
    return .scalar tag [] true
  else Arrange.fail

mutual

/--
One node. Block collections are admitted outside flow collections only, and a sequence without
indentation of its own only as a part of a block mapping.
-/
def arrangeNode (handles : Handles) : Nat → Bool → Bool → Arrange Node
  | 0, _, _ => Arrange.fail
  | fuel + 1, block, indentless => do
      match ← Arrange.peek with
      | some (.reference name) =>
          let number ← Arrange.resolve name
          Arrange.skip
          Arrange.mark
          return .reference number
      | _ =>
          let properties ← readProperties
          let tag ← match properties.tag with
            | none => pure none
            | some (handle, rest) =>
                match expandTag? handles handle rest with
                | some tag => pure (some tag)
                | none => Arrange.fail
          let next ← Arrange.peek
          let place := (← get).ledger.places
          let number? ← match properties.anchor with
            | some name => some <$> Arrange.register name
            | none => pure none
          let node ← match next with
            | some .blockEntry =>
                if indentless then do
                  Arrange.mark
                  let items ← arrangeIndentless handles fuel
                  Arrange.mark
                  pure (Node.sequence tag items)
                else arrangeBare properties tag
            | some (.scalar text plain) => do
                Arrange.skip
                Arrange.mark
                pure (scalarNode tag text plain)
            | some .flowSequenceStart => do
                Arrange.skip
                Arrange.mark
                let items ← arrangeFlowSequence handles fuel true
                Arrange.mark
                pure (Node.sequence tag items)
            | some .flowMappingStart => do
                Arrange.skip
                Arrange.mark
                let entries ← arrangeFlowMapping handles fuel true
                Arrange.mark
                pure (Node.mapping tag entries)
            | some .blockSequenceStart =>
                if block then do
                  Arrange.skip
                  Arrange.mark
                  let items ← arrangeBlockSequence handles fuel
                  Arrange.mark
                  pure (Node.sequence tag items)
                else arrangeBare properties tag
            | some .blockMappingStart =>
                if block then do
                  Arrange.skip
                  Arrange.mark
                  let entries ← arrangeBlockMapping handles fuel
                  Arrange.mark
                  pure (Node.mapping tag entries)
                else arrangeBare properties tag
            | _ => arrangeBare properties tag
          match number? with
          | some number => Arrange.anchor number place node
          | none => pure ()
          return node

def arrangeBlockSequence (handles : Handles) : Nat → Arrange (List Node)
  | 0 => Arrange.fail
  | fuel + 1 => do
      match ← Arrange.peek with
      | some .blockEntry =>
          Arrange.skip
          let item ← if endsBlockEntry (← Arrange.peek) then emptyNode
            else arrangeNode handles fuel true false
          return item :: (← arrangeBlockSequence handles fuel)
      | some .blockEnd =>
          Arrange.skip
          return []
      | _ => Arrange.fail

def arrangeIndentless (handles : Handles) : Nat → Arrange (List Node)
  | 0 => Arrange.fail
  | fuel + 1 => do
      match ← Arrange.peek with
      | some .blockEntry =>
          Arrange.skip
          let item ← if endsIndentlessEntry (← Arrange.peek) then emptyNode
            else arrangeNode handles fuel true false
          return item :: (← arrangeIndentless handles fuel)
      | _ => return []

def arrangeBlockMapping (handles : Handles) : Nat → Arrange (List (Node × Node))
  | 0 => Arrange.fail
  | fuel + 1 => do
      match ← Arrange.peek with
      | some .key =>
          Arrange.skip
          let key ← if endsBlockPart (← Arrange.peek) then emptyNode
            else arrangeNode handles fuel true true
          let value ← match ← Arrange.peek with
            | some .value => do
                Arrange.skip
                if endsBlockPart (← Arrange.peek) then emptyNode
                else arrangeNode handles fuel true true
            | _ => emptyNode
          return (key, value) :: (← arrangeBlockMapping handles fuel)
      | some .blockEnd =>
          Arrange.skip
          return []
      | _ => Arrange.fail

def arrangeFlowSequence (handles : Handles) : Nat → Bool → Arrange (List Node)
  | 0, _ => Arrange.fail
  | fuel + 1, first => do
      if (← Arrange.peek) == some .flowSequenceEnd then
        Arrange.skip
        return []
      else
        if !first then
          if (← Arrange.peek) == some .flowEntry then Arrange.skip else Arrange.fail
        match ← Arrange.peek with
        | some .flowSequenceEnd =>
            Arrange.skip
            return []
        | some .key =>
            Arrange.skip
            Arrange.mark
            let pair ← arrangePair handles fuel
            Arrange.mark
            return .mapping none [pair] :: (← arrangeFlowSequence handles fuel false)
        | _ =>
            let item ← arrangeNode handles fuel false false
            return item :: (← arrangeFlowSequence handles fuel false)

/-- A single pair in a flow sequence; a missing key takes the token that stands in its place. -/
def arrangePair (handles : Handles) : Nat → Arrange (Node × Node)
  | 0 => Arrange.fail
  | fuel + 1 => do
      let key ← if endsPairKey (← Arrange.peek) then do
          Arrange.skip
          emptyNode
        else arrangeNode handles fuel false false
      let value ← match ← Arrange.peek with
        | some .value => do
            Arrange.skip
            if endsPairValue (← Arrange.peek) then emptyNode
            else arrangeNode handles fuel false false
        | _ => emptyNode
      return (key, value)

def arrangeFlowMapping (handles : Handles) : Nat → Bool → Arrange (List (Node × Node))
  | 0, _ => Arrange.fail
  | fuel + 1, first => do
      if (← Arrange.peek) == some .flowMappingEnd then
        Arrange.skip
        return []
      else
        if !first then
          if (← Arrange.peek) == some .flowEntry then Arrange.skip else Arrange.fail
        match ← Arrange.peek with
        | some .flowMappingEnd =>
            Arrange.skip
            return []
        | some .key =>
            Arrange.skip
            let key ← if endsFlowKey (← Arrange.peek) then emptyNode
              else arrangeNode handles fuel false false
            let value ← match ← Arrange.peek with
              | some .value => do
                  Arrange.skip
                  if endsFlowValue (← Arrange.peek) then emptyNode
                  else arrangeNode handles fuel false false
              | _ => emptyNode
            return (key, value) :: (← arrangeFlowMapping handles fuel false)
        | _ =>
            let key ← arrangeNode handles fuel false false
            let value ← emptyNode
            return (key, value) :: (← arrangeFlowMapping handles fuel false)

end

/-- The directives before a document; each version and each handle is declared at most once. -/
structure Directives where
  versioned : Bool
  handles : Handles

def readDirectives : Nat → Directives → Arrange Directives
  | 0, directives => return directives
  | fuel + 1, directives => do
      match ← Arrange.peek with
      | some (.versionDirective major minor) =>
          if directives.versioned || major != 1 || (minor != 1 && minor != 2) then Arrange.fail
          else
            Arrange.skip
            readDirectives fuel { directives with versioned := true }
      | some (.tagDirective handle lead) =>
          if directives.handles.any fun entry => entry.1 == handle then Arrange.fail
          else
            Arrange.skip
            readDirectives fuel
              { directives with handles := directives.handles ++ [(handle, lead)] }
      | _ => return directives

def endsDocument : Option Token → Bool
  | none => true
  | some .documentStart => true
  | some .documentEnd => true
  | some (.versionDirective _ _) => true
  | some (.tagDirective _ _) => true
  | _ => false

/-- An explicit document follows its directives and its marker, and it may be empty. -/
def arrangeDocument : Arrange Node := do
  let fuel := 4 * (← get).tokens.length + 4
  let explicit ← match ← Arrange.peek with
    | some .documentStart => pure true
    | some (.versionDirective _ _) => pure true
    | some (.tagDirective _ _) => pure true
    | _ => pure false
  if explicit then
    let directives ← readDirectives fuel ⟨false, []⟩
    if (← Arrange.peek) == some .documentStart then
      Arrange.skip
      if endsDocument (← Arrange.peek) then emptyNode
      else arrangeNode (directives.handles ++ standardHandles) fuel true false
    else Arrange.fail
  else arrangeNode standardHandles fuel true false

/-- The tree of a document with its anchored nodes and the number of its marks. -/
structure Tree where
  root : Node
  anchored : List Anchored
  places : Nat

/-- A text without tokens has no tree, and only markers may follow the document. -/
def Tree.ofTokens? : List Token → Option (Option Tree)
  | [] => some none
  | tokens => do
      let (root, state) ← arrangeDocument.run ⟨tokens, ⟨[], 0, []⟩⟩
      if state.tokens.all (· == .documentEnd) then
        some (some ⟨root, state.ledger.anchored, state.ledger.places⟩)
      else none

end NetworkAutomation.Yaml
