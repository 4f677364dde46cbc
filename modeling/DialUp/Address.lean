import DialUp.Numeral.Decimal

/-!
# Internet addresses

An address of version 4 is four numbers between points, one of version 6 eight groups of hexadecimal
digits between colons, of which a run may be left out once, the last two written as an address of
version 4. Only ASCII digits count, and a number has no leading zeros.

* `isLoopback`: whether a host names the machine itself (`is_loopback_host`).
-/

namespace DialUp.Address

/-! ## Version 4 -/

/-- One number of an address. -/
def octet? (cs : List Char) : Option Nat :=
  if cs.isEmpty || !cs.all Char.isDigit || 3 < cs.length then none
  else if cs != ['0'] && cs.head? == some '0' then none
  else
    let n := cs.foldl (fun n c => 10 * n + (c.toNat - 0x30)) 0
    if 255 < n then none else some n

/-- An address of version 4 as a number of 32 bits. -/
def v4? (cs : List Char) : Option Nat := do
  let octets ← (cs.splitOn '.').mapM octet?
  if octets.length = 4 then some (octets.foldl (256 * · + ·) 0) else none

/-! ## Version 6 -/

/-- The value of a hexadecimal digit. -/
def hexDigit? (c : Char) : Option Nat :=
  if c.isDigit then some (c.toNat - 0x30)
  else if 'a' ≤ c && c ≤ 'f' then some (c.toNat - 0x57)
  else if 'A' ≤ c && c ≤ 'F' then some (c.toNat - 0x37)
  else none

/-- One group of an address; an empty one has no value. -/
def group? (cs : List Char) : Option (Option Nat) :=
  if cs.isEmpty then some none
  else if 4 < cs.length then none
  else do return some ((← cs.mapM hexDigit?).foldl (16 * · + ·) 0)

/-- The groups of an address. An address of version 4 at the end makes two. -/
def groups? (parts : List (List Char)) : Option (List (Option Nat)) :=
  match parts.getLast? with
  | some last =>
    if last.contains '.' then do
      let n ← v4? last
      return (← parts.dropLast.mapM group?) ++ [some (n / 65536), some (n % 65536)]
    else parts.mapM group?
  | none => none

/-- The values on one side of a run that is left out. Where the run is at an end of the address, an
empty group stands for that side. -/
def side? (groups : List (Option Nat)) : Option (List Nat) :=
  if groups = [none] then some [] else groups.mapM id

/-- The values of all eight groups. -/
def values? (groups : List (Option Nat)) : Option (List Nat) :=
  let inner := (List.range groups.length).filter fun i =>
    0 < i && i + 1 < groups.length && groups[i]? == some none
  match inner with
  | [] => if groups.length = 8 then groups.mapM id else none
  | [i] => do
    let high ← side? (groups.take i)
    let low ← side? (groups.drop (i + 1))
    let left := high.length + low.length
    if left < 8 then some (high ++ List.replicate (8 - left) 0 ++ low) else none
  | _ => none

/-- The text before the zone of an address. A zone is not empty. -/
def withoutZone? (cs : List Char) : Option (List Char) :=
  match cs.splitOn '%' with
  | [address] => some address
  | [address, zone] => if zone.isEmpty then none else some address
  | _ => none

/-- An address of version 6 as a number of 128 bits. -/
def v6? (cs : List Char) : Option Nat := do
  if cs.contains '/' then none
  else
    let parts := (← withoutZone? cs).splitOn ':'
    if parts.length < 3 then none
    else
      let groups ← groups? parts
      if 9 < groups.length then none
      else return (← values? groups).foldl (65536 * · + ·) 0

/-! ## The machine itself -/

/-- Whether a host names the machine itself: by name, or by an address that is kept for it. -/
def isLoopback (host : String) : Bool :=
  let cs := host.toList
  if cs.map Numeral.asciiLower == "localhost".toList then true
  else match v4? cs with
    | some n => n / 0x1000000 == 127
    | none => v6? cs == some 1

end DialUp.Address
