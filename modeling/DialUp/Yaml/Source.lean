import DialUp.Yaml.Cursor

/-!
# The text of a document

A document is UTF-8. Every line break of two bytes or of a lone carriage return becomes a line
feed. A document holds only characters that can be printed, tabs and line breaks.

The text is supplied as it is needed: bytes are decoded in portions, characters are handed out in
batches, and the first two batches come before anything else. So a fault in the bytes or
characters of a later batch counts only if reading gets there.

* `Source.ofBytes`: the text that reading can get at, and the fault behind it, if there is one.
-/

namespace DialUp.Yaml

/-! ## UTF-8 -/

/-- What the decoding of a run of bytes comes to. -/
structure Run where
  chars : List Char := []
  /-- The beginning of a character at the end of the run. -/
  left : Bytes := []
  /-- Whether decoding stopped at a byte that is no part of a character. -/
  invalid : Bool := false

/-- The run with one more character in front. -/
def Run.cons (code : Nat) (r : Run) : Run := { r with chars := Char.ofNat code :: r.chars }

/-- A continuation byte within bounds. -/
def tail? (low high : Nat) (b : UInt8) : Option Nat :=
  if low ≤ b.toNat ∧ b.toNat ≤ high then some (b.toNat - 0x80) else none

/-- Decodes UTF-8; surrogates, overlong forms and values beyond the last code point are no UTF-8. -/
def decode : Bytes → Run
  | [] => {}
  | a :: rest =>
    let n := a.toNat
    if n < 0x80 then (decode rest).cons n
    else if 0xC2 ≤ n ∧ n < 0xE0 then
      match rest with
      | [] => { left := [a] }
      | b :: rest =>
        match tail? 0x80 0xBF b with
        | some x => (decode rest).cons ((n - 0xC0) * 0x40 + x)
        | none => { invalid := true }
    else if 0xE0 ≤ n ∧ n < 0xF0 then
      match rest with
      | [] => { left := [a] }
      | b :: rest =>
        match tail? (if n = 0xE0 then 0xA0 else 0x80) (if n = 0xED then 0x9F else 0xBF) b, rest with
        | none, _ => { invalid := true }
        | some _, [] => { left := [a, b] }
        | some x, c :: rest =>
          match tail? 0x80 0xBF c with
          | some y => (decode rest).cons (((n - 0xE0) * 0x40 + x) * 0x40 + y)
          | none => { invalid := true }
    else if 0xF0 ≤ n ∧ n < 0xF5 then
      match rest with
      | [] => { left := [a] }
      | b :: rest =>
        match tail? (if n = 0xF0 then 0x90 else 0x80) (if n = 0xF4 then 0x8F else 0xBF) b, rest with
        | none, _ => { invalid := true }
        | some _, [] => { left := [a, b] }
        | some x, c :: rest =>
          match tail? 0x80 0xBF c, rest with
          | none, _ => { invalid := true }
          | some _, [] => { left := [a, b, c] }
          | some y, d :: rest =>
            match tail? 0x80 0xBF d with
            | some z => (decode rest).cons ((((n - 0xF0) * 0x40 + x) * 0x40 + y) * 0x40 + z)
            | none => { invalid := true }
    else { invalid := true }

/-! ## Lines -/

/-- The text with every line break as a line feed. -/
def unifyBreaks : List Char → List Char
  | [] => []
  | '\r' :: '\n' :: rest => '\n' :: unifyBreaks rest
  | '\r' :: rest => '\n' :: unifyBreaks rest
  | c :: rest => c :: unifyBreaks rest

/-- Whether a character may stand in a document. -/
def isAllowed (c : Char) : Bool :=
  let n := c.toNat
  n == 0x9 || n == 0xA || n == 0xD || (0x20 ≤ n && n ≤ 0x7E) || n == 0x85
    || (0xA0 ≤ n && n ≤ 0xD7FF) || (0xE000 ≤ n && n ≤ 0xFFFD) || 0x10000 ≤ n

/-! ## Portions and batches -/

/-- The number of characters of a batch. -/
def batchSize : Nat := 4096

/-- The number of bytes of a portion, if the characters do not take more. -/
def portionSize : Nat := 8192

/-- A document while it is decoded. -/
structure Supply where
  /-- The bytes not taken yet. -/
  bytes : Bytes
  /-- The beginning of a character or of a line break at the end of the last portion. -/
  left : Bytes := []
  /-- The characters not handed out yet. -/
  ready : List Char := []
  /-- How many bytes the last portion had, and how many characters came of it. -/
  lastBytes : Nat := 0
  lastChars : Nat := 0

namespace Supply

/-- How many bytes to take for a number of characters. -/
def portionFor (s : Supply) (wanted : Nat) : Nat :=
  max portionSize (s.lastBytes * wanted / s.lastChars)

/-- Decodes the next portion; at the end of the document, what is left is decoded. There is no
result if the bytes are no UTF-8. A carriage return at the end of a portion waits for what
follows. -/
def refill (s : Supply) (wanted : Nat) : Option Supply :=
  let portion := s.bytes.take (s.portionFor wanted)
  let run := decode (s.left ++ portion)
  if run.invalid then none
  else if portion.isEmpty then
    if run.left.isEmpty then some { s with left := [], ready := s.ready ++ unifyBreaks run.chars }
    else none
  else
    let waits := run.chars.getLast? == some '\r'
    let chars := unifyBreaks (if waits then run.chars.dropLast else run.chars)
    some
      { bytes := s.bytes.drop portion.length
        left := if waits then 0x0D :: run.left else run.left
        ready := s.ready ++ chars
        lastBytes := portion.length
        lastChars := chars.length }

/-- Decodes portions until a batch is ready or the document ends. -/
def fill : (fuel : Nat) → Supply → Option Supply
  | 0, s => some s
  | fuel + 1, s =>
    if batchSize ≤ s.ready.length || (s.bytes.isEmpty && s.left.isEmpty) then some s
    else do fill fuel (← s.refill (batchSize - s.ready.length))

/-- The batches of a document, and whether bytes follow them that are no UTF-8. -/
def batches : (fuel : Nat) → Supply → List (List Char) × Bool
  | 0, _ => ([], false)
  | fuel + 1, s =>
    match s.fill (s.bytes.length + 2) with
    | none => ([], true)
    | some s =>
      if s.ready.isEmpty then ([], false)
      else
        let (more, ends) := batches fuel { s with ready := s.ready.drop batchSize }
        (s.ready.take batchSize :: more, ends)

end Supply

/-- The text that reading can get at. -/
structure Source where
  text : List Char
  /-- Why reading cannot go on behind the text, if the document does not end there. -/
  fault : Option Fault

namespace Source

/-- The text of batches up to the first that holds a character which no document holds. -/
def ofBatches (last : Option Fault) : List (List Char) → Source
  | [] => ⟨[], last⟩
  | batch :: rest =>
    if batch.all isAllowed then
      let more := ofBatches last rest
      ⟨batch ++ more.text, more.fault⟩
    else ⟨[], some .malformed⟩

/-- The text of a document's bytes. Bytes that are no UTF-8 come before characters that no
document holds, if both are met at once. -/
def ofBytes (data : Bytes) : Source :=
  let (batches, undecodable) := Supply.batches (data.length + 2) { bytes := data }
  let last : Option Fault := if undecodable then some (.valueless .undecodable) else none
  match batches with
  | [] => ⟨[], last⟩
  | [batch] => if undecodable then ⟨[], last⟩ else ofBatches last [batch]
  | first :: second :: rest => ofBatches last ((first ++ second) :: rest)

end Source

end DialUp.Yaml
