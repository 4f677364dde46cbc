import DialUp.Document.Conversion

/-!
# A place in a document

A cursor stands before the part of a document that was not read yet, and knows the index of its
place, its line and its column. Reading is a step (`Scan`) that moves the cursor or fails.

Beyond the end of the document a cursor sees the null character, which a document never holds.
-/

namespace DialUp.Yaml

open Document (Mishap)

/-- Why a document cannot be read. -/
inductive Fault
  /-- The document breaks the rules of the format. -/
  | malformed
  /-- The document holds something that there is no value for. -/
  | valueless (mishap : Mishap)
  deriving DecidableEq, Repr

/-! ## Classes of characters -/

/-- Ends a line. -/
def isBreak (c : Char) : Bool :=
  c == '\n' || c == '\r' || c == '\u0085' || c == '\u2028' || c == '\u2029'

/-- Ends a line or the document. -/
def isBreakOrEnd (c : Char) : Bool := c == '\x00' || isBreak c

/-- A space, or the end of a line or the document. -/
def isSpaceOrEnd (c : Char) : Bool := c == ' ' || isBreakOrEnd c

/-- A space or a tab, or the end of a line or the document. -/
def isGapOrEnd (c : Char) : Bool := c == '\t' || isSpaceOrEnd c

/-- A letter, digit, hyphen or underscore of ASCII. -/
def isWordChar (c : Char) : Bool := c.isAlphanum || c == '-' || c == '_'

/-- A hexadecimal digit. -/
def isHex (c : Char) : Bool :=
  c.isDigit || ('a' ≤ c && c ≤ 'f') || ('A' ≤ c && c ≤ 'F')

/-- The value of a hexadecimal digit. -/
def hexValue (c : Char) : Nat :=
  if c.isDigit then c.toNat - 0x30 else if 'a' ≤ c then c.toNat - 0x57 else c.toNat - 0x37

/-- The number that hexadecimal digits stand for. -/
def ofHex (cs : List Char) : Nat := cs.foldl (fun n c => 16 * n + hexValue c) 0

/-! ## Cursors -/

/-- A place in a document. -/
structure Cursor where
  rest : List Char
  /-- At least the number of characters that are left. -/
  left : Nat
  index : Nat := 0
  line : Nat := 0
  column : Nat := 0

namespace Cursor

/-- The cursor at the start of a text. -/
def atStart (text : List Char) : Cursor := { rest := text, left := text.length }

/-- The character `n` places on. -/
def peek (c : Cursor) (n : Nat) : Char := c.rest.getD n '\x00'

/-- The next `n` characters. -/
def ahead (c : Cursor) (n : Nat) : List Char := c.rest.take n

/-- Moves over one character. A byte order mark takes up no column. -/
def next (c : Cursor) : Cursor :=
  match c.rest with
  | [] => c
  | ch :: rest =>
    if isBreak ch then ⟨rest, c.left - 1, c.index + 1, c.line + 1, 0⟩
    else if ch == '\uFEFF' then ⟨rest, c.left - 1, c.index + 1, c.line, c.column⟩
    else ⟨rest, c.left - 1, c.index + 1, c.line, c.column + 1⟩

/-- Moves over `n` characters. -/
def forward : (n : Nat) → Cursor → Cursor
  | 0, c => c
  | n + 1, c => forward n c.next

/-- Whether the line at the cursor begins with a document marker: three such characters, then a gap
or the end. -/
def atMarker (c : Cursor) (mark : Char) : Bool :=
  c.ahead 3 == [mark, mark, mark] && isGapOrEnd (c.peek 3)

/-- Whether the line at the cursor begins with either document marker. -/
def atAnyMarker (c : Cursor) : Bool := c.atMarker '-' || c.atMarker '.'

end Cursor

/-- A step that reads. -/
abbrev Scan := EStateM Fault Cursor

namespace Scan

/-- Fails because the document is malformed. -/
def fail {α : Type} : Scan α := throw .malformed

/-- The character `n` places on. -/
def peek (n : Nat) : Scan Char := return (← get).peek n

/-- Moves over `n` characters. -/
def skip (n : Nat) : Scan Unit := modify (·.forward n)

/-- Reads the characters up to the first that does not have the property. -/
def takeWhile (p : Char → Bool) : Scan (List Char) := do
  let cs := (← get).rest.takeWhile p
  skip cs.length
  return cs

/-- Moves over spaces. -/
def skipSpaces : Scan Unit := do
  let _ ← takeWhile (· == ' ')

/-- Moves over the rest of the line. -/
def skipLine : Scan Unit := do
  let _ ← takeWhile (!isBreak ·)

/-- Requires the next character to have a property. -/
def expect (p : Char → Bool) : Scan Unit := do
  if !p (← peek 0) then fail

/-- Reads one line break, if there is one. Separators of lines and paragraphs stay what they are,
all other breaks become a line feed. -/
def lineBreak? : Scan (Option Char) := do
  let ch ← peek 0
  if ch == '\r' && (← peek 1) == '\n' then
    skip 2
    return some '\n'
  else if ch == '\u2028' || ch == '\u2029' then
    skip 1
    return some ch
  else if isBreak ch then
    skip 1
    return some '\n'
  else return none

/-- Reads what may follow on a line that says all it has to: spaces, a comment and the break. -/
def endOfLine : Scan Unit := do
  skipSpaces
  if (← peek 0) == '#' then skipLine
  expect isBreakOrEnd
  let _ ← lineBreak?

/-- A bound on the steps that move on from here. -/
def bound : Scan Nat := return (← get).left + 1

end Scan

end DialUp.Yaml
