import DialUp.Yaml.ScalarText
import DialUp.Yaml.Token

/-!
# From text to tokens

The lexer keeps the columns of the open block collections, the depth of flow collections, and for
each depth the place of a token that may turn out to be a mapping key. When a colon follows on the
same line and within `keyReach` characters, the mark of a key, and if need be the start of a
mapping, is put in front of that token.

A token is settled only when no colon can make it a key any more. A fault that is met before counts
before the token.

* `tokensOf`: the settled tokens of a text, and the fault that ends them, if there is one.
-/

namespace DialUp.Yaml

/-! ## Marks with a name -/

namespace Scan

/-- Reads a name of word characters. -/
def name : Scan String := do
  let cs ← takeWhile isWordChar
  if cs.isEmpty then fail
  return String.ofList cs

/-- Whether a character may follow the name of an anchor or an alias. -/
def endsAnchor (c : Char) : Bool :=
  isGapOrEnd c || c == '?' || c == ':' || c == ',' || c == ']' || c == '\x7d' || c == '%'
    || c == '@' || c == '\x60'

/-- Reads the name of an anchor or an alias after its indicator. -/
def anchorName : Scan String := do
  skip 1
  let s ← name
  expect endsAnchor
  return s

/-- Whether a character may stand in the address of a tag. -/
def isAddressChar (c : Char) : Bool :=
  isWordChar c || c == ';' || c == '/' || c == '?' || c == ':' || c == '@' || c == '&' || c == '='
    || c == '+' || c == '$' || c == ',' || c == '.' || c == '!' || c == '~' || c == '*'
    || c == '\'' || c == '(' || c == ')' || c == '[' || c == ']'

/-- Reads bytes written as a percent sign and two hexadecimal digits. -/
def percentBytes : (fuel : Nat) → Scan (List UInt8)
  | 0 => return []
  | fuel + 1 => do
    if (← peek 0) == '%' then
      skip 1
      let digits := (← get).ahead 2
      if digits.length < 2 || !digits.all isHex then fail
      skip 2
      return UInt8.ofNat (ofHex digits) :: (← percentBytes fuel)
    else return []

/-- The text that UTF-8 bytes stand for. -/
def fromUtf8 (bytes : List UInt8) : Scan (List Char) :=
  match String.fromUTF8? ⟨bytes.toArray⟩ with
  | some s => return s.toList
  | none => fail

/-- Reads the address of a tag, which may be empty. -/
def addressChars : (fuel : Nat) → Scan (List Char)
  | 0 => return []
  | fuel + 1 => do
    let cs ← takeWhile isAddressChar
    if (← peek 0) == '%' then
      let special ← fromUtf8 (← percentBytes (← bound))
      return cs ++ special ++ (← addressChars fuel)
    else return cs

/-- Reads the address of a tag. -/
def address : Scan String := do
  let start := (← get).index
  let cs ← addressChars (← bound)
  if (← get).index == start then fail
  return String.ofList cs

/-- Reads the handle of a tag: an exclamation mark, or a name between two. -/
def tagHandle : Scan String := do
  expect (· == '!')
  if (← peek 1) == ' ' then
    skip 1
    return "!"
  else
    let word := ((← get).rest.drop 1).takeWhile isWordChar
    if (← peek (word.length + 1)) != '!' then fail
    skip (word.length + 2)
    return String.ofList ('!' :: word ++ ['!'])

/-- Whether a tag that begins here has a handle with a name or of two exclamation marks. -/
def hasHandle (c : Cursor) : Bool :=
  ((c.rest.drop 1).takeWhile fun ch => !isSpaceOrEnd ch).contains '!'

/-- Reads a tag. -/
def tagName : Scan TagName := do
  let ch ← peek 1
  let tag ←
    if ch == '<' then do
      skip 2
      let suffix ← address
      expect (· == '>')
      skip 1
      pure (TagName.mk none suffix)
    else if isGapOrEnd ch then do
      skip 1
      pure (TagName.mk none "!")
    else if hasHandle (← get) then do
      let handle ← tagHandle
      let suffix ← address
      pure (TagName.mk (some handle) suffix)
    else do
      skip 1
      let suffix ← address
      pure (TagName.mk (some "!") suffix)
  expect isSpaceOrEnd
  return tag

/-- Reads the digits of a version number. -/
def versionNumber : Scan Nat := do
  let cs ← takeWhile Char.isDigit
  if cs.isEmpty then fail
  match Numeral.readInteger? cs with
  | some n => return n.toNat
  | none => throw (.valueless .badValue)

/-- Reads a directive. -/
def directive : Scan Directive := do
  skip 1
  let word ← name
  expect isSpaceOrEnd
  let d ←
    if word == "YAML" then do
      skipSpaces
      let major ← versionNumber
      expect (· == '.')
      skip 1
      let _ ← versionNumber
      expect isSpaceOrEnd
      pure (Directive.version major)
    else if word == "TAG" then do
      skipSpaces
      let handle ← tagHandle
      expect (· == ' ')
      skipSpaces
      let start ← address
      expect isSpaceOrEnd
      pure (Directive.tag handle start)
    else do
      skipLine
      pure Directive.unknown
  endOfLine
  return d

end Scan

/-! ## The lexer -/

/-- The most characters between the start of a key and its colon. -/
def keyReach : Nat := 1024

/-- A token that may be a key. -/
structure PossibleKey where
  /-- The position of the token among all tokens. -/
  token : Nat
  /-- Whether the document is malformed if it is no key. -/
  required : Bool
  index : Nat
  line : Nat
  column : Nat

/-- The state of the lexer. -/
structure Lexer where
  cursor : Cursor
  tokens : Array Token := #[]
  /-- The number of open flow collections. -/
  flowDepth : Nat := 0
  /-- The column of the innermost block collection, -1 outside all. -/
  indent : Int := -1
  /-- The columns of the collections around it, the innermost first. -/
  outer : List Int := []
  /-- Whether a key may begin at the cursor. -/
  keyAllowed : Bool := true
  /-- Possible keys, by their flow depth. -/
  possibleKeys : List (Nat × PossibleKey) := []
  done : Bool := false

/-- A step of the lexer. -/
abbrev Lex := EStateM Fault Lexer

namespace Lex

/-- Fails because the document is malformed. -/
def fail {α : Type} : Lex α := throw .malformed

/-- Reads at the cursor. -/
def scan {α : Type} (step : Scan α) : Lex α := do
  let lx ← get
  match step lx.cursor with
  | .ok a cursor =>
    set { lx with cursor }
    return a
  | .error fault cursor =>
    set { lx with cursor }
    throw fault

/-- Adds a token. -/
def push (t : Token) : Lex Unit := modify fun lx => { lx with tokens := lx.tokens.push t }

/-- Allows or forbids keys. -/
def allowKey (allowed : Bool) : Lex Unit := modify fun lx => { lx with keyAllowed := allowed }

/-- Forgets the possible keys that are out of reach. -/
def dropStaleKeys : Lex Unit := do
  let lx ← get
  let c := lx.cursor
  let (kept, stale) := lx.possibleKeys.partition fun (_, key) =>
    key.line == c.line && c.index - key.index ≤ keyReach
  if stale.any fun (_, key) => key.required then fail
  set { lx with possibleKeys := kept }

/-- Forgets the possible key of this flow depth. -/
def dropKey : Lex Unit := do
  let lx ← get
  match lx.possibleKeys.lookup lx.flowDepth with
  | none => pure ()
  | some key =>
    if key.required then fail
    set { lx with possibleKeys := lx.possibleKeys.filter fun (depth, _) => depth != lx.flowDepth }

/-- Notes that the next token may be a key. -/
def noteKey : Lex Unit := do
  if (← get).keyAllowed then
    dropKey
    let lx ← get
    let c := lx.cursor
    let key : PossibleKey :=
      { token := lx.tokens.size, required := lx.flowDepth == 0 && lx.indent == c.column
        index := c.index, line := c.line, column := c.column }
    set { lx with possibleKeys := (lx.flowDepth, key) :: lx.possibleKeys }

/-- Closes the block collections right of a column. -/
def unwind (column : Int) : Lex Unit := do
  let lx ← get
  if lx.flowDepth == 0 then
    let rec close (indent : Int) (closed : Nat) : List Int → Int × List Int × Nat
      | [] => (indent, [], closed)
      | around :: outer =>
        if column < indent then close around (closed + 1) outer
        else (indent, around :: outer, closed)
    let (indent, outer, closed) := close lx.indent 0 lx.outer
    modify fun lx =>
      { lx with indent, outer, tokens := lx.tokens ++ List.replicate closed Token.blockEnd }

/-- Opens a block collection at a column, unless one is open there; the result tells whether it
did. -/
def openAt (column : Nat) : Lex Bool := do
  let lx ← get
  if lx.indent < column then
    set { lx with indent := (column : Int), outer := lx.indent :: lx.outer }
    return true
  else return false

/-- Ends the tokens. -/
def streamEnd : Lex Unit := do
  unwind (-1)
  dropKey
  push .streamEnd
  modify fun lx => { lx with keyAllowed := false, possibleKeys := [], done := true }

/-- A directive. -/
def directive : Lex Unit := do
  unwind (-1)
  dropKey
  allowKey false
  push (.directive (← scan Scan.directive))

/-- A marker of a document's start or end. -/
def marker (t : Token) : Lex Unit := do
  unwind (-1)
  dropKey
  allowKey false
  scan (Scan.skip 3)
  push t

/-- The start of a flow collection. -/
def flowStart (t : Token) : Lex Unit := do
  noteKey
  modify fun lx => { lx with flowDepth := lx.flowDepth + 1, keyAllowed := true }
  scan (Scan.skip 1)
  push t

/-- The end of a flow collection. -/
def flowEnd (t : Token) : Lex Unit := do
  dropKey
  modify fun lx => { lx with flowDepth := lx.flowDepth - 1, keyAllowed := false }
  scan (Scan.skip 1)
  push t

/-- A comma. -/
def flowEntry : Lex Unit := do
  allowKey true
  dropKey
  scan (Scan.skip 1)
  push .flowEntry

/-- The dash of a block sequence. -/
def blockEntry : Lex Unit := do
  let lx ← get
  if lx.flowDepth == 0 then
    if !lx.keyAllowed then fail
    if ← openAt lx.cursor.column then push .blockSequenceStart
  allowKey true
  dropKey
  scan (Scan.skip 1)
  push .blockEntry

/-- The question mark before a key. -/
def key : Lex Unit := do
  let lx ← get
  if lx.flowDepth == 0 then
    if !lx.keyAllowed then fail
    if ← openAt lx.cursor.column then push .blockMappingStart
  allowKey (lx.flowDepth == 0)
  dropKey
  scan (Scan.skip 1)
  push .key

/-- Puts a token in front of another. -/
def insertAt (position : Nat) (t : Token) : Lex Unit := modify fun lx =>
  { lx with tokens := lx.tokens.insertIdxIfInBounds position t }

/-- The colon between a key and its value. -/
def value : Lex Unit := do
  let lx ← get
  match lx.possibleKeys.lookup lx.flowDepth with
  | some possible =>
    set { lx with possibleKeys := lx.possibleKeys.filter fun (depth, _) => depth != lx.flowDepth }
    insertAt possible.token .key
    if lx.flowDepth == 0 then
      if ← openAt possible.column then insertAt possible.token .blockMappingStart
    allowKey false
  | none =>
    if lx.flowDepth == 0 then
      if !lx.keyAllowed then fail
      if ← openAt lx.cursor.column then push .blockMappingStart
    allowKey (lx.flowDepth == 0)
    dropKey
  scan (Scan.skip 1)
  push .value

/-- A mark or a scalar that may be, or be part of, a key. -/
def keyPart (step : Scan Token) : Lex Unit := do
  noteKey
  allowKey false
  push (← scan step)

/-- A block scalar. -/
def blockScalar (isFolded : Bool) : Lex Unit := do
  allowKey true
  dropKey
  let parent := (← get).indent
  push (.scalar (String.ofList (← scan (Scan.blockScalar isFolded parent))) false)

/-- A scalar in quotes. -/
def quotedScalar (double : Bool) : Lex Unit :=
  keyPart do return .scalar (String.ofList (← Scan.quotedScalar double)) false

/-- A plain scalar. After one that ends with a line break a key may begin. -/
def plainScalar : Lex Unit := do
  noteKey
  let lx ← get
  let (text, broken) ← scan (Scan.plainScalar (lx.flowDepth != 0) lx.indent)
  allowKey broken
  push (.scalar (String.ofList text) true)

/-- Whether a plain scalar can begin with a character, by the next character. -/
def beginsPlain (inFlow : Bool) (ch after : Char) : Bool :=
  let mark := isGapOrEnd ch || ch == '-' || ch == '?' || ch == ':' || ch == ',' || ch == '['
    || ch == ']' || ch == '\x7b' || ch == '\x7d' || ch == '#' || ch == '&' || ch == '*' || ch == '!'
    || ch == '|' || ch == '>' || ch == '\'' || ch == '"' || ch == '%' || ch == '@' || ch == '\x60'
  !mark || (!isGapOrEnd after && (ch == '-' || (!inFlow && (ch == '?' || ch == ':'))))

/-- Moves over spaces, comments and line breaks. Outside flow collections a key may begin on each
new line. -/
def toNextToken : (fuel : Nat) → Lex Unit
  | 0 => pure ()
  | fuel + 1 => do
    scan do
      Scan.skipSpaces
      if (← Scan.peek 0) == '#' then Scan.skipLine
    match ← scan Scan.lineBreak? with
    | none => pure ()
    | some _ =>
      if (← get).flowDepth == 0 then allowKey true
      toNextToken fuel

/-- Reads the next token. -/
def token : Lex Unit := do
  if (← get).cursor.index == 0 && (← get).cursor.peek 0 == '\uFEFF' then scan (Scan.skip 1)
  toNextToken ((← get).cursor.left + 1)
  dropStaleKeys
  unwind (← get).cursor.column
  let lx ← get
  let c := lx.cursor
  let ch := c.peek 0
  let inFlow := lx.flowDepth != 0
  let gapAfter := isGapOrEnd (c.peek 1)
  if ch == '\x00' then streamEnd
  else if ch == '%' && c.column == 0 then directive
  else if c.column == 0 && c.atMarker '-' then marker .documentStart
  else if c.column == 0 && c.atMarker '.' then marker .documentEnd
  else if ch == '[' then flowStart .flowSequenceStart
  else if ch == '\x7b' then flowStart .flowMappingStart
  else if ch == ']' then flowEnd .flowSequenceEnd
  else if ch == '\x7d' then flowEnd .flowMappingEnd
  else if ch == ',' then flowEntry
  else if ch == '-' && gapAfter then blockEntry
  else if ch == '?' && (inFlow || gapAfter) then key
  else if ch == ':' && (inFlow || gapAfter) then value
  else if ch == '*' then keyPart do return .alias (← Scan.anchorName)
  else if ch == '&' then keyPart do return .anchor (← Scan.anchorName)
  else if ch == '!' then keyPart do return .tag (← Scan.tagName)
  else if ch == '|' && !inFlow then blockScalar false
  else if ch == '>' && !inFlow then blockScalar true
  else if ch == '\'' then quotedScalar false
  else if ch == '"' then quotedScalar true
  else if beginsPlain inFlow ch (c.peek 1) then plainScalar
  else fail

end Lex

/-- The number of tokens that are settled: those before every possible key. -/
def Lexer.settled (lx : Lexer) : Nat :=
  lx.possibleKeys.foldl (fun n (_, key) => min n key.token) lx.tokens.size

/-- The first tokens. -/
def Lexer.firstTokens (lx : Lexer) (count : Nat) : List Token := lx.tokens.toList.take count

/-- Reads tokens up to the end or up to a fault. Where the text ends, the fault behind it counts, if
there is one. -/
def Lexer.run (behind : Option Fault) : (fuel : Nat) → Lexer → List Token × Option Fault
  | 0, lx => (lx.firstTokens lx.settled, behind)
  | fuel + 1, lx =>
    match Lex.dropStaleKeys lx with
    | .error fault lx => (lx.firstTokens lx.settled, some fault)
    | .ok _ lx =>
      let settled := lx.settled
      match Lex.token lx with
      | .error fault lx =>
        (lx.firstTokens settled, some (if lx.cursor.rest.isEmpty then behind.getD fault else fault))
      | .ok _ lx =>
        if lx.cursor.rest.isEmpty && behind.isSome then (lx.firstTokens settled, behind)
        else if lx.done then (lx.tokens.toList, none)
        else lx.run behind fuel

/-- The settled tokens of a text, and the fault that ends them, if there is one. -/
def tokensOf (text : List Char) (behind : Option Fault) : List Token × Option Fault :=
  Lexer.run behind (text.length + 1) { cursor := .atStart text }

end DialUp.Yaml
