import DialUp.Document.Value

/-!
# The order of a set's members

Numbers in a set stand in the order of the slots of a table with open addressing: a number goes
into the slot that its residue names, or, if that is taken, into the next free one of a sequence of
tries. A set with a member that is no number keeps its members in the order in which they came.

* `arranged`: the members of a set in their order.
-/

namespace DialUp.Document.Members

/-- The prime by which residues are taken. -/
def modulus : Nat := Nat.pow 2 61 - 1

/-- The residue of a magnitude, with the sign of the number. None is -1. -/
def signed (negative : Bool) (magnitude : Nat) : Int :=
  let r : Int := (magnitude % modulus : Nat)
  if !negative then r else if r == 1 then -2 else -r

/-- The residue of a number. A power of two depends only on its exponent modulo 61. -/
def residue? : Value → Option Int
  | .bool b => some (if b then 1 else 0)
  | .int i => some (signed (i < 0) i.natAbs)
  | .float (.finite negative s e) => some (signed negative (s * Nat.pow 2 (e % 61).toNat))
  | .float (.infinite negative) => some (signed negative 314159)
  | _ => none

/-- The number of slots for a number of members: a power of two, at least 8, and from five members
on more than twice their number. -/
def slotCount (members : Nat) : Nat :=
  if members < 5 then 8 else Nat.pow 2 (Nat.log2 (2 * members) + 1)

/-- The slots of a table, each free or taken. -/
abbrev Slots := Array (Option Value)

/-- Whether a slot is free. -/
def isFree (slots : Slots) (i : Nat) : Bool := slots[i]? matches some none

/-- The slot for a new member, from slot `i` on. Nine slots behind are tried if there are as many;
then it goes on at a slot that more and more of the residue's word is taken into. -/
def freeSlot (slots : Slots) : (word i : Nat) → (fuel : Nat) → Nat
  | _, i, 0 => i
  | word, i, fuel + 1 =>
    let run := if i + 9 < slots.size then 10 else 1
    match (List.range run).find? fun k => isFree slots (i + k) with
    | some k => i + k
    | none => freeSlot slots (word / 32) ((5 * i + 1 + word / 32) % slots.size) fuel

/-- Puts a member with a residue into its slot. -/
def place (slots : Slots) (member : Value) (residue : Int) : Slots :=
  let word := (residue % 0x10000000000000000).toNat
  let i := freeSlot slots word (word % slots.size) (slots.size + 14)
  slots.setIfInBounds i (some member)

/-- The members of a set in their order. -/
def arranged (members : List Value) : List Value :=
  match members.mapM residue? with
  | none => members
  | some residues =>
    let free : Slots := Array.replicate (slotCount members.length) none
    let slots := (members.zip residues).foldl (fun slots (m, r) => place slots m r) free
    slots.toList.filterMap id

end DialUp.Document.Members
