/-!
# Byte strings

Chunks of bytes as they travel on a connection.
-/

namespace DialUp

/-- A chunk of bytes. -/
abbrev Bytes := List UInt8

namespace Bytes

/-- The bytes of an ASCII text; of any other character only the low byte is kept. -/
def ofText (s : String) : Bytes := s.toList.map fun c => UInt8.ofNat c.toNat

/-- Where a chunk is cut by a size: at the size itself, or, if that is negative, that many bytes
before the end. -/
def cutAt (chunk : Bytes) (size : Int) : Nat :=
  if 0 ≤ size then size.toNat else (chunk.length + size).toNat

/-- The part of a chunk before the cut. -/
def front (chunk : Bytes) (size : Int) : Bytes := chunk.take (chunk.cutAt size)

/-- The part of a chunk behind the cut. -/
def back (chunk : Bytes) (size : Int) : Bytes := chunk.drop (chunk.cutAt size)

theorem front_append_back (chunk : Bytes) (size : Int) :
    chunk.front size ++ chunk.back size = chunk :=
  List.take_append_drop _ _

end Bytes

end DialUp
