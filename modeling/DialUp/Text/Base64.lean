import DialUp.Bytes

/-!
# Base 64

Four characters stand for three bytes; a group that stands for fewer is filled up with equal signs.
Reading skips all other characters, equal signs that fill up no group included, and ends with the
first group that is filled up.
-/

namespace DialUp.Text.Base64

/-- The value of a character. -/
def value? (c : Char) : Option Nat :=
  let n := c.toNat
  if 0x41 ≤ n ∧ n ≤ 0x5A then some (n - 0x41)
  else if 0x61 ≤ n ∧ n ≤ 0x7A then some (n - 0x61 + 26)
  else if 0x30 ≤ n ∧ n ≤ 0x39 then some (n - 0x30 + 52)
  else if c = '+' then some 62
  else if c = '/' then some 63
  else none

/-- The bytes that are complete in a group of values. -/
def groupBytes (group : List Nat) : Bytes :=
  let n := (group ++ List.replicate (4 - group.length) 0).foldl (64 * · + ·) 0
  ([n / 65536, n / 256, n].map fun k => UInt8.ofNat (k % 256)).take (group.length - 1)

/-- Reads on within a group; `filled` counts the equal signs since its last value. -/
def decodeFrom (group : List Nat) (filled : Nat) : List Char → Option Bytes
  | [] => if group.isEmpty then some [] else none
  | c :: rest =>
    if c = '=' then
      if 2 ≤ group.length then
        if 4 ≤ group.length + filled + 1 then some (groupBytes group)
        else decodeFrom group (filled + 1) rest
      else decodeFrom group filled rest
    else match value? c with
      | none => decodeFrom group filled rest
      | some v =>
        if group.length = 3 then (decodeFrom [] 0 rest).map (groupBytes (group ++ [v]) ++ ·)
        else decodeFrom (group ++ [v]) 0 rest

/-- The bytes that a text stands for. -/
def decode? (cs : List Char) : Option Bytes := decodeFrom [] 0 cs

end DialUp.Text.Base64
