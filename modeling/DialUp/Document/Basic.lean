import DialUp.Document.Value

/-!
# Documents

A document is a value together with the collections that are kept at places. A collection that is
a part of itself is written only so far: where it comes again inside of itself, three points stand
for what it holds.

Each value has a written form (`written?`), in which texts are quoted, and a plain form
(`plain?`), in which a text stands for itself. Neither exists of an integer with more digits than
can be written.

* `look_of_not_part`: a value that tells no place stands for itself.
-/

namespace DialUp

open Document (Value)

/-- A document. -/
structure Document where
  root : Document.Value
  /-- The collections by their places. -/
  parts : Array Document.Value := #[]
  deriving Repr, Inhabited

namespace Document

/-- The collection at a place; at a place that is not there is null. -/
def partAt (d : Document) (place : Nat) : Value := d.parts.getD place .null

/-- What a value stands for: one that tells a place stands for what is kept there. -/
def look (d : Document) : Value → Value
  | .part place => d.partAt place
  | v => v

theorem look_of_not_part {d : Document} {v : Value} (h : ∀ place, v ≠ .part place) :
    d.look v = v := by
  unfold look
  split
  · exact absurd rfl (h _)
  · rfl

/-! ## Truth -/

/-- Whether a value counts as true: all but null, false, zero and what is empty. -/
def isTruthy (d : Document) (v : Value) : Bool :=
  match d.look v with
  | .null => false
  | .bool b => b
  | .int i => i != 0
  | .float x => x.nonzero
  | .text s => !s.isEmpty
  | .bytes data => !data.isEmpty
  | .list items => !items.isEmpty
  | .map pairs => !pairs.isEmpty
  | .set members => !members.isEmpty
  | .date _ | .moment _ | .pair _ _ | .part _ => true

/-- The value, or another in place of one that does not count as true. -/
def orElse (d : Document) (v other : Value) : Value := if d.isTruthy v then v else other

/-! ## Written and plain form -/

/-- The written form of a value inside the collections at the places of `way`. It takes one step
for each collection that it goes into, and it goes into none twice. -/
def writtenInside? (d : Document) : (way : List Nat) → (fuel : Nat) → Value → Option String
  | _, 0, _ => none
  | way, fuel + 1, v =>
    v.writtenWith? fun place =>
      if way.contains place then some (d.partAt place).ellipsis
      else d.writtenInside? (place :: way) fuel (d.partAt place)

/-- The written form of a value. -/
def written? (d : Document) (v : Value) : Option String :=
  d.writtenInside? [] (d.parts.size + 2) v

/-- The plain form of a value: of a text the text itself, of dates and moments the short form, and
of any other value the written form. -/
def plain? (d : Document) : Value → Option String
  | .text s => some s
  | .date day => some day.text
  | .moment m => some m.text
  | v => d.written? v

end Document

end DialUp
