import DialUp.Text.Surrogate
import DialUp.Yaml.Cursor

/-!
# The text of scalars

Scalars come in quotes, as blocks of lines below an indicator, or plain. A single line break inside
a scalar in quotes, a folded block or a plain scalar stands for a space, and of several breaks the
first is dropped.
-/

namespace DialUp.Yaml

open Document (Mishap)

namespace Scan

/-! ## In quotes -/

/-- What the letter after a backslash stands for. -/
def escapeFor? : Char → Option Char
  | '0' => some '\x00'
  | 'a' => some '\x07'
  | 'b' => some '\x08'
  | 't' => some '\t'
  | '\t' => some '\t'
  | 'n' => some '\n'
  | 'v' => some '\x0b'
  | 'f' => some '\x0c'
  | 'r' => some '\r'
  | 'e' => some '\x1b'
  | ' ' => some ' '
  | '"' => some '"'
  | '\\' => some '\\'
  | '/' => some '/'
  | 'N' => some '\u0085'
  | '_' => some '\u00a0'
  | 'L' => some '\u2028'
  | 'P' => some '\u2029'
  | _ => none

/-- The number of hexadecimal digits after a backslash and a letter. -/
def escapeWidth? : Char → Option Nat
  | 'x' => some 2
  | 'u' => some 4
  | 'U' => some 8
  | _ => none

/-- The character of a code point. -/
def charOf (code : Nat) : Scan Char :=
  if code ≤ 0x10FFFF then return Text.ofCode code
  else throw (.valueless (if code < 0x80000000 then .badValue else .tooLarge))

/-- Reads the breaks after a line break inside quotes, and the blanks at the start of the lines. A
document marker must not stand there. -/
def quotedBreaks : (fuel : Nat) → Scan (List Char)
  | 0 => return []
  | fuel + 1 => do
    if (← get).atAnyMarker then fail
    let _ ← takeWhile fun c => c == ' ' || c == '\t'
    match ← lineBreak? with
    | none => return []
    | some ch => return ch :: (← quotedBreaks fuel)

/-- What a line break and the breaks after it stand for. -/
def folded (first : Char) (others : List Char) : List Char :=
  if first != '\n' then first :: others
  else if others.isEmpty then [' ']
  else others

/-- Reads blanks and line breaks inside quotes. -/
def quotedSpaces : Scan (List Char) := do
  let blanks ← takeWhile fun c => c == ' ' || c == '\t'
  if (← peek 0) == '\x00' then fail
  match ← lineBreak? with
  | none => return blanks
  | some first => return folded first (← quotedBreaks (← bound))

/-- Reads an escape sequence after its backslash. -/
def escape : Scan (List Char) := do
  let ch ← peek 0
  match escapeFor? ch, escapeWidth? ch with
  | some c, _ =>
    skip 1
    return [c]
  | none, some width =>
    skip 1
    let digits := (← get).ahead width
    if digits.length < width || !digits.all isHex then fail
    let c ← charOf (ofHex digits)
    skip width
    return [c]
  | none, none =>
    if isBreak ch then
      let _ ← lineBreak?
      quotedBreaks (← bound)
    else fail

/-- Whether a character stands for itself in quotes of either kind. -/
def isOrdinary (c : Char) : Bool :=
  !(c == '\'' || c == '"' || c == '\\' || c == '\t' || c == ' ' || isBreakOrEnd c)

/-- Reads characters in quotes up to a blank, a break or the closing quote. -/
def quotedWord (double : Bool) : (fuel : Nat) → Scan (List Char)
  | 0 => return []
  | fuel + 1 => do
    let word ← takeWhile isOrdinary
    let ch ← peek 0
    if !double && ch == '\'' && (← peek 1) == '\'' then
      skip 2
      return word ++ '\'' :: (← quotedWord double fuel)
    else if (double && ch == '\'') || (!double && (ch == '"' || ch == '\\')) then
      skip 1
      return word ++ ch :: (← quotedWord double fuel)
    else if double && ch == '\\' then
      skip 1
      let c ← escape
      return word ++ c ++ (← quotedWord double fuel)
    else return word

/-- Reads the rest of a scalar in quotes. -/
def quotedRest (double : Bool) : (fuel : Nat) → Scan (List Char)
  | 0 => fail
  | fuel + 1 => do
    if (← peek 0) == (if double then '"' else '\'') then
      skip 1
      return []
    else
      let spaces ← quotedSpaces
      let word ← quotedWord double (← bound)
      return spaces ++ word ++ (← quotedRest double fuel)

/-- Reads a scalar in quotes. -/
def quotedScalar (double : Bool) : Scan (List Char) := do
  skip 1
  let word ← quotedWord double (← bound)
  return word ++ (← quotedRest double (← bound))

/-! ## Blocks -/

/-- What happens to the breaks at the end of a block. -/
inductive Chomping
  | strip
  | clip
  | keep
  deriving DecidableEq

/-- Reads a chomping indicator, if there is one. -/
def chomping? : Scan (Option Chomping) := do
  match ← peek 0 with
  | '+' =>
    skip 1
    return some .keep
  | '-' =>
    skip 1
    return some .strip
  | _ => return none

/-- Reads an indentation indicator, if there is one. -/
def increment? : Scan (Option Nat) := do
  let ch ← peek 0
  if ch.isDigit then
    if ch == '0' then fail
    skip 1
    return some (ch.toNat - 0x30)
  else return none

/-- Reads the indicators of a block, in either order. -/
def blockIndicators : Scan (Chomping × Option Nat) := do
  match ← chomping? with
  | some chomping =>
    let increment ← increment?
    expect isSpaceOrEnd
    return (chomping, increment)
  | none =>
    match ← increment? with
    | some increment =>
      let chomping ← chomping?
      expect isSpaceOrEnd
      return (chomping.getD .clip, some increment)
    | none =>
      expect isSpaceOrEnd
      return (.clip, none)

/-- Reads the empty lines at the start of a block and finds the widest indentation there. -/
def blockIndentation : (fuel widest : Nat) → Scan (List Char × Nat)
  | 0, widest => return ([], widest)
  | fuel + 1, widest => do
    if (← peek 0) == ' ' then
      skip 1
      blockIndentation fuel (max widest (← get).column)
    else
      match ← lineBreak? with
      | none => return ([], widest)
      | some ch =>
        let (breaks, widest) ← blockIndentation fuel widest
        return (ch :: breaks, widest)

/-- Moves over spaces up to a column. -/
def indentTo (column : Nat) : Scan Unit := do
  let c ← get
  skip ((c.rest.take (column - c.column)).takeWhile (· == ' ')).length

/-- Reads empty lines inside a block. -/
def blockBreaks (indent : Nat) : (fuel : Nat) → Scan (List Char)
  | 0 => return []
  | fuel + 1 => do
    indentTo indent
    match ← lineBreak? with
    | none => return []
    | some ch => return ch :: (← blockBreaks indent fuel)

/-- Whether the cursor stands at a line of a block. -/
def atBlockLine (indent : Nat) : Scan Bool := do
  let c ← get
  return c.column == indent && c.peek 0 != '\x00'

/-- Reads the lines of a block, given the empty lines before the next. The result is the text and
the last break with the empty lines after it. -/
def blockLines (isFolded : Bool) (indent : Nat) :
    (fuel : Nat) → (breaks : List Char) → Scan (List Char × Option Char × List Char)
  | 0, breaks => return ([], none, breaks)
  | fuel + 1, breaks => do
    let ch ← peek 0
    let flush := ch != ' ' && ch != '\t'
    let text ← takeWhile (!isBreak ·)
    let lineBreak ← lineBreak?
    let after ← blockBreaks indent (← bound)
    if ← atBlockLine indent then
      let ch ← peek 0
      let joint :=
        if isFolded && lineBreak == some '\n' && flush && ch != ' ' && ch != '\t' then
          if after.isEmpty then [' '] else []
        else lineBreak.toList
      let (more, last) ← blockLines isFolded indent fuel after
      return (breaks ++ text ++ joint ++ more, last)
    else return (breaks ++ text, lineBreak, after)

/-- Reads a block scalar below a collection that is indented to `parent`, or below none. -/
def blockScalar (isFolded : Bool) (parent : Int) : Scan (List Char) := do
  skip 1
  let (chomping, increment) ← blockIndicators
  endOfLine
  let least := max 1 (parent + 1).toNat
  let (breaks, indent) ← match increment with
    | none => do
      let (breaks, widest) ← blockIndentation (← bound) 0
      pure (breaks, max least widest)
    | some increment => do
      let indent := least + increment - 1
      let breaks ← blockBreaks indent (← bound)
      pure (breaks, indent)
  let (text, lineBreak, after) ←
    if ← atBlockLine indent then blockLines isFolded indent (← bound) breaks
    else pure ([], none, breaks)
  return match chomping with
    | .strip => text
    | .clip => text ++ lineBreak.toList
    | .keep => text ++ lineBreak.toList ++ after

/-! ## Plain -/

/-- A character that ends a plain scalar in a flow collection. -/
def isFlowMark (c : Char) : Bool :=
  c == ',' || c == '?' || c == '[' || c == ']' || c == '\x7b' || c == '\x7d'

/-- A character after which a colon in a flow collection is an indicator. -/
def isFlowEnd (c : Char) : Bool := c == ',' || c == '[' || c == ']' || c == '\x7b' || c == '\x7d'

/-- The characters of a plain scalar up to a gap or an indicator. -/
def plainWord (inFlow : Bool) : List Char → List Char
  | [] => []
  | c :: rest =>
    let after := rest.headD '\x00'
    if isGapOrEnd c || (c == ':' && (isGapOrEnd after || (inFlow && isFlowEnd after)))
        || (inFlow && isFlowMark c) then []
    else c :: plainWord inFlow rest

/-- Reads the empty lines after a line break inside a plain scalar. There is no result before a
document marker. -/
def plainBreaks : (fuel : Nat) → Scan (Option (List Char))
  | 0 => return some []
  | fuel + 1 => do
    skipSpaces
    match ← lineBreak? with
    | none => return some []
    | some ch =>
      if (← get).atAnyMarker then return none
      else return (← plainBreaks fuel).map (ch :: ·)

/-- Reads the gap after a word of a plain scalar. The result is what the gap stands for, nothing at
the end of the scalar, and whether there was a line break. -/
def plainSpaces : Scan (List Char × Bool) := do
  let blanks ← takeWhile (· == ' ')
  match ← lineBreak? with
  | none => return (blanks, false)
  | some first =>
    if (← get).atAnyMarker then return ([], true)
    else match ← plainBreaks (← bound) with
      | none => return ([], true)
      | some others => return (folded first others, true)

/-- Reads the words of a plain scalar, given the gap before the next. The result tells whether the
scalar ends with a line break. -/
def plainWords (inFlow : Bool) (indent : Nat) :
    (fuel : Nat) → (spaces : List Char) → (broken : Bool) → Scan (List Char × Bool)
  | 0, _, broken => return ([], broken)
  | fuel + 1, spaces, broken => do
    if (← peek 0) == '#' then return ([], broken)
    let word := plainWord inFlow (← get).rest
    if word.isEmpty then return ([], broken)
    skip word.length
    let (after, broken) ← plainSpaces
    if after.isEmpty || (← peek 0) == '#' || (!inFlow && (← get).column < indent) then
      return (spaces ++ word, broken)
    else
      let (more, broken) ← plainWords inFlow indent fuel after broken
      return (spaces ++ word ++ more, broken)

/-- Reads a plain scalar below a collection that is indented to `parent`, or below none. -/
def plainScalar (inFlow : Bool) (parent : Int) : Scan (List Char × Bool) := do
  plainWords inFlow (parent + 1).toNat (← bound) [] false

end Scan

end DialUp.Yaml
