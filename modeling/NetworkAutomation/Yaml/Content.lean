/-
This file resolves the tree of a YAML text into its content and turns that into a document.
-/

import NetworkAutomation.Document.Printer
import NetworkAutomation.Yaml.Lexer
import NetworkAutomation.Yaml.Node
import NetworkAutomation.Yaml.Scalar

namespace NetworkAutomation.Yaml

open NetworkAutomation.Decimal

/-- Content has no aliases, and its mappings may have keys of every sort. -/
inductive Content where
  | scalar (value : Scalar)
  | list (items : List Content)
  | mapping (entries : List (Content × Content))
  | tagged (tag : List Char) (content : Content)

/-- Scalars agree when they are of one sort and of one value. -/
def Scalar.agrees : Scalar → Scalar → Bool
  | .float left, .float right => left.agrees right
  | left, right => left == right

mutual

/-- The order of entries does not matter. -/
def Content.agrees : Content → Content → Bool
  | .scalar left, .scalar right => left.agrees right
  | .list left, .list right => itemsAgree left right
  | .mapping left, .mapping right =>
      left.length == right.length && pairsWithin left right
  | .tagged left content, .tagged right other => left == right && content.agrees other
  | _, _ => false

def itemsAgree : List Content → List Content → Bool
  | [], [] => true
  | left :: lefts, right :: rights => left.agrees right && itemsAgree lefts rights
  | _, _ => false

def pairsWithin : List (Content × Content) → List (Content × Content) → Bool
  | [], _ => true
  | (key, value) :: rest, other =>
      other.any (fun entry => key.agrees entry.1 && value.agrees entry.2) &&
        pairsWithin rest other

end

/-- Aliases are followed at most this many times for each mark of the tree. -/
def jumpsPerPlace : Nat := 100

/-- Collections nest at most this many times. -/
def greatestDepth : Nat := 128

/-- The state counts how many aliases were followed. -/
abbrev Resolve (α : Type) := StateT Nat Option α

namespace Resolve

def fail {α : Type} : Resolve α := fun _ => none

/-- Of the nodes that share a number, the one that began last is meant. -/
def target? (tree : Tree) (number : Nat) : Option Node :=
  let candidates := tree.anchored.filter fun anchored => anchored.number == number
  (candidates.foldl later none).map Anchored.node
where
  later : Option Anchored → Anchored → Option Anchored
    | some latest, anchored =>
        if latest.place < anchored.place then some anchored else some latest
    | none, anchored => some anchored

/-- An alias is replaced by its node, and an anchored node is never an alias itself. -/
def follow (tree : Tree) : Node → Resolve Node
  | .reference number => do
      let jumps := (← get) + 1
      set jumps
      if tree.places * jumpsPerPlace < jumps then fail
      else
        match target? tree number with
        | some node => return node
        | none => fail
  | node => return node

/-- A local tag begins with a bang and has a name. -/
def attachTag (tag : Option (List Char)) (content : Content) : Resolve Content :=
  match tag with
  | some ['!'] => fail
  | some ['!', '!'] => return .tagged ['!'] content
  | some ('!' :: '!' :: name) => return .tagged name content
  | some ('!' :: name) => return .tagged name content
  | _ => return content

/-- A key that agrees with an earlier one is refused. -/
def addEntry (entries : List (Content × Content)) (key value : Content) :
    Resolve (List (Content × Content)) :=
  if entries.any fun entry => entry.1.agrees key then fail
  else return entries ++ [(key, value)]

/-- The content of a node with the given number of levels below it. -/
def content (tree : Tree) (depth : Nat) (node : Node) : Resolve Content := do
  match ← follow tree node with
  | .reference _ => fail
  | .scalar tag text plain =>
      match Scalar.resolve? tag text plain with
      | some value => attachTag tag (.scalar value)
      | none => fail
  | .sequence tag items =>
      match depth with
      | 0 => fail
      | inner + 1 =>
          let contents ← items.mapM (content tree inner)
          attachTag tag (.list contents)
  | .mapping tag entries =>
      match depth with
      | 0 => fail
      | inner + 1 =>
          let pairs ← entries.foldlM
            (fun pairs entry => do
              let key ← content tree inner entry.1
              let value ← content tree inner entry.2
              addEntry pairs key value) []
          attachTag tag (.mapping pairs)
termination_by structural depth

end Resolve

/-- An empty text stands for null. -/
def Content.read? (text : List Char) : Option Content := do
  match ← Tree.ofTokens? (← tokens? text) with
  | none => some (.scalar .null)
  | some tree => ((Resolve.content tree greatestDepth tree.root).run 0).map Prod.fst

/-- Some content has no place in a document. -/
inductive ConversionError where
  | unrepresentable (value : Extended)
  | unsupportedKey
  deriving DecidableEq

/-- The names of the values that no decimal has, as they stand in messages. -/
def Extended.name : Extended → String
  | .finite value => value.text
  | .infinite false => "inf"
  | .infinite true => "-inf"
  | .notANumber => "NaN"

/-- Every message names its cause. -/
def ConversionError.message : ConversionError → String
  | .unrepresentable value => "cannot represent float " ++ value.name ++ " in JSON"
  | .unsupportedKey => "unsupported mapping key"

/-- Numbers and booleans become keys by their text, as they would be written again. -/
def Scalar.key? : Scalar → Option String
  | .text value => some (String.ofList value)
  | .integer value => some (Text.integerText value)
  | .float (.finite value) => some value.text
  | .float (.infinite false) => some ".inf"
  | .float (.infinite true) => some "-.inf"
  | .float .notANumber => some ".nan"
  | .boolean true => some "true"
  | .boolean false => some "false"
  | .null => none

def Content.key : Content → Except ConversionError String
  | .scalar value =>
      match value.key? with
      | some key => .ok key
      | none => .error .unsupportedKey
  | _ => .error .unsupportedKey

def Scalar.toDocument : Scalar → Except ConversionError Document
  | .null => .ok .null
  | .boolean value => .ok (.boolean value)
  | .integer value => .ok (.integer value)
  | .float (.finite value) => .ok (.number (.float value))
  | .float value => .error (.unrepresentable value)
  | .text value => .ok (.text (String.ofList value))

mutual

/-- Tags are dropped, and keys become texts. -/
def Content.toDocument : Content → Except ConversionError Document
  | .scalar value => value.toDocument
  | .list items => do return .list (← Content.documents items)
  | .mapping entries => do return .mapping (← Content.entryDocuments entries [])
  | .tagged _ content => content.toDocument

def Content.documents : List Content → Except ConversionError (List Document)
  | [] => .ok []
  | item :: rest => do
      let document ← item.toDocument
      return document :: (← Content.documents rest)

/-- Keys that become the same text share one entry, which takes the last document. -/
def Content.entryDocuments : List (Content × Content) → Mapping → Except ConversionError Mapping
  | [], collected => .ok collected
  | (key, value) :: rest, collected => do
      let name ← key.key
      let document ← value.toDocument
      Content.entryDocuments rest (collected.insert name document)

end

end NetworkAutomation.Yaml
