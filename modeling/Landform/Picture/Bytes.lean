namespace Landform
namespace Picture

/-!
The byte strings that picture files are made of: numbers in either byte order, check sums,
and numbers of any count of bits packed into bytes.
-/

/-- The lowest bytes of a number, the lowest first. -/
def lowFirst : Nat -> Nat -> List UInt8
  | 0, _ => []
  | count + 1, n => n.toUInt8 :: lowFirst count (n / 256)

/-- The lowest bytes of a number, the highest of them first. -/
def highFirst (count n : Nat) : List UInt8 :=
  (lowFirst count n).reverse

/-- The bytes of a text of ASCII characters. -/
def asciiBytes (s : String) : List UInt8 :=
  s.toList.map fun c => c.toNat.toUInt8

/-- The bytes of a list. -/
def bytesOf (bytes : List UInt8) : ByteArray :=
  ⟨bytes.toArray⟩

/-- Divides a remainder of the cyclic check by one more bit. -/
def cyclicStep (remainder : UInt32) : UInt32 :=
  if remainder &&& 1 == 1 then (remainder >>> 1) ^^^ 0xEDB88320 else remainder >>> 1

/-- Divides a remainder of the cyclic check by the bits of one more byte. -/
def cyclicByte (remainder : UInt32) (byte : UInt8) : UInt32 :=
  (List.range 8).foldl (fun r _ => cyclicStep r) (remainder ^^^ byte.toUInt32)

/-- The cyclic check sum of 32 bits. -/
def cyclicSum (bytes : ByteArray) : UInt32 :=
  bytes.foldl cyclicByte 0xFFFFFFFF ^^^ 0xFFFFFFFF

/-- The two running sums of bytes, modulo the largest prime below 65536. -/
def runningSum (bytes : ByteArray) : Nat :=
  let (low, high) :=
    bytes.foldl
      (fun (low, high) byte =>
        let next := (low + byte.toNat) % 65521
        (next, (high + next) % 65521))
      (1, 0)
  high * 65536 + low

/-- A number, and how many of its lowest bits are meant. -/
structure BitField where
  width : Nat
  value : Nat

/-- Bits that do not fill a byte yet, and the bytes before them. -/
structure BitBuffer where
  bytes : ByteArray := ByteArray.empty
  pending : Nat := 0
  count : Nat := 0

namespace BitBuffer

/-- Moves full bytes out of the pending bits. -/
def settle : Nat -> BitBuffer -> BitBuffer
  | 0, buffer => buffer
  | fuel + 1, buffer =>
      if buffer.count < 8 then buffer
      else
        settle fuel
          ⟨buffer.bytes.push buffer.pending.toUInt8, buffer.pending / 256, buffer.count - 8⟩

/-- Puts a field behind the bits so far, its lowest bit first. -/
def add (buffer : BitBuffer) (field : BitField) : BitBuffer :=
  settle ((buffer.count + field.width) / 8)
    ⟨buffer.bytes, buffer.pending + field.value % Nat.pow 2 field.width * Nat.pow 2 buffer.count,
      buffer.count + field.width⟩

/-- The bytes; the last one is filled up with zeros. -/
def finish (buffer : BitBuffer) : ByteArray :=
  if buffer.count = 0 then buffer.bytes else buffer.bytes.push buffer.pending.toUInt8

end BitBuffer

/-- The bytes of fields, each with its lowest bit first. -/
def packed (fields : List BitField) : ByteArray :=
  (fields.foldl BitBuffer.add {}).finish

/-- A number of eight bits with the bits in the opposite order. -/
def mirrored (n : Nat) : Nat :=
  (List.range 8).foldl (fun m i => m * 2 + n / Nat.pow 2 i % 2) 0

end Picture
end Landform
