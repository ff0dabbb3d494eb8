/-
This file cuts a YAML text into tokens and makes the block structure of its indentation explicit.
-/

import NetworkAutomation.Yaml.Block
import NetworkAutomation.Yaml.Plain
import NetworkAutomation.Yaml.Quoted
import NetworkAutomation.Yaml.Token

namespace NetworkAutomation.Yaml

/-- A place where a key may turn out to have begun, once a colon follows on the same line. -/
structure KeyCandidate where
  required : Bool
  tokenCount : Nat
  index : Nat
  line : Nat
  column : Nat

/--
The tokens stand in reverse order. The candidates hold one place for each open flow collection and
one for the block structure around them.
-/
structure Lexer where
  cursor : Cursor
  tokens : List Token
  indentation : Int
  outerIndentations : List Int
  keyAllowed : Bool
  candidate : Option KeyCandidate
  outerCandidates : List (Option KeyCandidate)

namespace Lexer

def start (text : List Char) : Lexer :=
  { cursor := ⟨text, 0, 0, 0⟩
    tokens := []
    indentation := -1
    outerIndentations := []
    keyAllowed := true
    candidate := none
    outerCandidates := [] }

def inFlow (lexer : Lexer) : Bool :=
  !lexer.outerCandidates.isEmpty

def emit (lexer : Lexer) (token : Token) : Lexer :=
  { lexer with tokens := token :: lexer.tokens }

/-- The token is placed behind the given number of tokens. -/
def emitAt (lexer : Lexer) (count : Nat) (token : Token) : Lexer :=
  let behind := lexer.tokens.length - count
  { lexer with tokens := lexer.tokens.take behind ++ token :: lexer.tokens.drop behind }

def advance (lexer : Lexer) (count : Nat) : Lexer :=
  { lexer with cursor := lexer.cursor.advance count }

/-- A key lies on one line and begins at most this many characters before its colon. -/
def greatestKeyLength : Nat := 1024

def isStale (cursor : Cursor) (candidate : KeyCandidate) : Bool :=
  candidate.line < cursor.line || candidate.index + greatestKeyLength < cursor.index

/-- A stale candidate is dropped, unless its line could only have begun with a key. -/
def refresh? (cursor : Cursor) : Option KeyCandidate → Option (Option KeyCandidate)
  | none => some none
  | some candidate =>
      if isStale cursor candidate then
        if candidate.required then none else some none
      else some (some candidate)

def dropStale? (lexer : Lexer) : Option Lexer := do
  let candidate ← refresh? lexer.cursor lexer.candidate
  let outerCandidates ← lexer.outerCandidates.mapM (refresh? lexer.cursor)
  some { lexer with candidate, outerCandidates }

/-- A required candidate cannot be given up. -/
def dropCandidate? (lexer : Lexer) : Option Lexer :=
  match lexer.candidate with
  | some candidate => if candidate.required then none else some { lexer with candidate := none }
  | none => some lexer

/-- The next token may begin a key, if keys are allowed here. -/
def saveCandidate? (lexer : Lexer) : Option Lexer :=
  if lexer.keyAllowed then do
    let cleared ← lexer.dropCandidate?
    some { cleared with
      candidate := some {
        required := !lexer.inFlow && lexer.indentation == (lexer.cursor.column : Int)
        tokenCount := lexer.tokens.length
        index := lexer.cursor.index
        line := lexer.cursor.line
        column := lexer.cursor.column } }
  else some lexer

/-- A deeper column opens a block collection outside flow collections. -/
def openBlock (lexer : Lexer) (column count : Nat) (token : Token) : Lexer :=
  if !lexer.inFlow && lexer.indentation < (column : Int) then
    let opened := { lexer with
      indentation := column
      outerIndentations := lexer.indentation :: lexer.outerIndentations }
    opened.emitAt count token
  else lexer

/-- The blocks that are indented deeper than the column end in front of it. -/
def closeBlocksFrom (column indentation : Int) (outer : List Int) (tokens : List Token) :
    Int × List Int × List Token :=
  match outer with
  | [] => (indentation, [], tokens)
  | next :: rest =>
      if column < indentation then closeBlocksFrom column next rest (.blockEnd :: tokens)
      else (indentation, next :: rest, tokens)

def closeBlocks (lexer : Lexer) (column : Int) : Lexer :=
  if lexer.inFlow then lexer
  else
    let (indentation, outerIndentations, tokens) :=
      closeBlocksFrom column lexer.indentation lexer.outerIndentations lexer.tokens
    { lexer with indentation, outerIndentations, tokens }

/-- A tab is no space where a key could begin. -/
def isSkipped (lexer : Lexer) (character : Char) : Bool :=
  character == ' ' || (character == '\t' && (lexer.inFlow || !lexer.keyAllowed))

/-- A byte-order mark may begin a text, and elsewhere it is a character like any other. -/
def skipMark (cursor : Cursor) : Cursor :=
  if cursor.index == 0 && cursor.startsWith '\ufeff' then cursor.advance 1 else cursor

/-- A line break outside flow collections allows a key again. -/
def skipToToken : Nat → Lexer → Lexer
  | 0, lexer => lexer
  | fuel + 1, lexer =>
      let cursor := ((skipMark lexer.cursor).skipWhile lexer.isSkipped).skipComment
      match cursor.rest with
      | character :: _ =>
          if isBreak character then
            skipToToken fuel { lexer with
              cursor := cursor.readBreak.2
              keyAllowed := lexer.keyAllowed || !lexer.inFlow }
          else { lexer with cursor }
      | [] => { lexer with cursor }

/-- Directives and document markers end all blocks. -/
def closeDocument? (lexer : Lexer) : Option Lexer := do
  let cleared ← (lexer.closeBlocks (-1)).dropCandidate?
  some { cleared with keyAllowed := false }

def fetchDirective? (lexer : Lexer) : Option Lexer := do
  let closed ← lexer.closeDocument?
  let (token, cursor) ← Property.readDirective? closed.cursor
  some ({ closed with cursor }.emit token)

def fetchMarker? (lexer : Lexer) (token : Token) : Option Lexer := do
  let closed ← lexer.closeDocument?
  some ((closed.emit token).advance 3)

def fetchFlowStart? (lexer : Lexer) (token : Token) : Option Lexer := do
  let saved ← lexer.saveCandidate?
  let opened := { saved with
    candidate := none
    outerCandidates := saved.candidate :: saved.outerCandidates
    keyAllowed := true }
  some ((opened.emit token).advance 1)

def fetchFlowEnd? (lexer : Lexer) (token : Token) : Option Lexer := do
  let cleared ← lexer.dropCandidate?
  let closed :=
    match cleared.outerCandidates with
    | [] => cleared
    | candidate :: outerCandidates => { cleared with candidate, outerCandidates }
  some (({ closed with keyAllowed := false }.emit token).advance 1)

def fetchFlowEntry? (lexer : Lexer) : Option Lexer := do
  let cleared ← lexer.dropCandidate?
  some (({ cleared with keyAllowed := true }.emit .flowEntry).advance 1)

/-- Outside flow collections an entry or a key stands only where a key could begin. -/
def openAt? (lexer : Lexer) (token : Token) : Option Lexer :=
  if lexer.inFlow then some lexer
  else if lexer.keyAllowed then
    some (lexer.openBlock lexer.cursor.column lexer.tokens.length token)
  else none

def fetchBlockEntry? (lexer : Lexer) : Option Lexer := do
  let cleared ← (← lexer.openAt? .blockSequenceStart).dropCandidate?
  some (({ cleared with keyAllowed := true }.emit .blockEntry).advance 1)

def fetchKey? (lexer : Lexer) : Option Lexer := do
  let cleared ← (← lexer.openAt? .blockMappingStart).dropCandidate?
  some (({ cleared with keyAllowed := !lexer.inFlow }.emit .key).advance 1)

/-- A colon turns the candidate into a key, whose tokens are placed where the candidate began. -/
def fetchValue? (lexer : Lexer) : Option Lexer := do
  let opened ←
    match lexer.candidate with
    | some candidate =>
        let keyed := lexer.emitAt candidate.tokenCount .key
        let opened := keyed.openBlock candidate.column candidate.tokenCount .blockMappingStart
        some { opened with candidate := none, keyAllowed := false }
    | none => do
        let opened ← lexer.openAt? .blockMappingStart
        some { opened with keyAllowed := !lexer.inFlow }
  some ((opened.emit .value).advance 1)

/-- A property or a scalar may begin a key, and behind it no other key begins. -/
def beginContent? (lexer : Lexer) : Option Lexer := do
  let saved ← lexer.saveCandidate?
  some { saved with keyAllowed := false }

def fetchAnchor? (lexer : Lexer) (token : List Char → Token) : Option Lexer := do
  let begun ← lexer.beginContent?
  let (name, cursor) ← Property.readAnchor? begun.cursor
  some ({ begun with cursor }.emit (token name))

def fetchTag? (lexer : Lexer) : Option Lexer := do
  let begun ← lexer.beginContent?
  let (token, cursor) ← Property.readTagToken? begun.inFlow begun.cursor
  some ({ begun with cursor }.emit token)

/-- A block scalar ends a line, so a key may follow it. -/
def fetchBlockScalar? (lexer : Lexer) (literal : Bool) : Option Lexer := do
  let cleared ← lexer.dropCandidate?
  let (text, cursor) ← Block.read? literal cleared.indentation (cleared.cursor.advance 1)
  some ({ cleared with cursor, keyAllowed := true }.emit (.scalar text false))

def fetchQuoted? (lexer : Lexer) (style : Quoted.Style) : Option Lexer := do
  let begun ← lexer.beginContent?
  let (text, cursor) ← Quoted.read? style begun.cursor
  some ({ begun with cursor }.emit (.scalar text false))

/-- A plain scalar that runs over a line break allows a key behind it. -/
def fetchPlain? (lexer : Lexer) : Option Lexer := do
  let begun ← lexer.beginContent?
  let result ← Plain.read? begun.inFlow (begun.indentation + 1) begun.cursor
  some ({ begun with cursor := result.cursor, keyAllowed := result.broken }.emit
    (.scalar result.text true))

/-- An indicator begins a plain scalar only where it is followed by something else. -/
def startsPlain (flow : Bool) (character : Char) (rest : List Char) : Bool :=
  if character == '-' then !((rest.head?.map isBlank).getD false)
  else if character == '?' || character == ':' then !flow && !startsGap rest
  else !isGap character && !",[]\x7b\x7d#&*!|>'\"%@\x60".toList.contains character

/-- The first character decides which token follows. -/
def fetchToken? (lexer : Lexer) (character : Char) (rest : List Char) : Option Lexer :=
  let atLineStart := lexer.cursor.column == 0
  let flow := lexer.inFlow
  if atLineStart && character == '%' then lexer.fetchDirective?
  else if lexer.cursor.atMarker '-' then lexer.fetchMarker? .documentStart
  else if lexer.cursor.atMarker '.' then lexer.fetchMarker? .documentEnd
  else if character == '[' then lexer.fetchFlowStart? .flowSequenceStart
  else if character == '\x7b' then lexer.fetchFlowStart? .flowMappingStart
  else if character == ']' then lexer.fetchFlowEnd? .flowSequenceEnd
  else if character == '\x7d' then lexer.fetchFlowEnd? .flowMappingEnd
  else if character == ',' then lexer.fetchFlowEntry?
  else if character == '-' && startsGap rest then lexer.fetchBlockEntry?
  else if character == '?' && (flow || startsGap rest) then lexer.fetchKey?
  else if character == ':' && (flow || startsGap rest) then lexer.fetchValue?
  else if character == '*' then lexer.fetchAnchor? .reference
  else if character == '&' then lexer.fetchAnchor? .anchor
  else if character == '!' then lexer.fetchTag?
  else if character == '|' && !flow then lexer.fetchBlockScalar? true
  else if character == '>' && !flow then lexer.fetchBlockScalar? false
  else if character == '\'' then lexer.fetchQuoted? .single
  else if character == '"' then lexer.fetchQuoted? .double
  else if startsPlain flow character rest then lexer.fetchPlain?
  else none

/-- Each round reads one token, and every token takes at least one character. -/
def run? : Nat → Lexer → Option Lexer
  | 0, _ => none
  | fuel + 1, lexer => do
      let skipped := skipToToken (lexer.cursor.rest.length + 1) lexer
      let fresh ← skipped.dropStale?
      let closed := fresh.closeBlocks fresh.cursor.column
      match closed.cursor.rest with
      | [] => (closed.closeBlocks (-1)).dropCandidate?
      | character :: rest => do
          let next ← closed.fetchToken? character rest
          run? fuel next

end Lexer

/-- A byte-order mark in front of the text tells its encoding and is no part of it. -/
def dropMark : List Char → List Char
  | '\ufeff' :: rest => rest
  | text => text

/-- The tokens of a whole text, or nothing where it cannot be cut into tokens. -/
def tokens? (text : List Char) : Option (List Token) :=
  let characters := dropMark text
  if characters.all isAllowed then
    ((Lexer.start characters).run? (characters.length + 1)).map fun lexer => lexer.tokens.reverse
  else none

end NetworkAutomation.Yaml
