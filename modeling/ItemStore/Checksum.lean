/-!
# ItemStore.Checksum

The cyclic redundancy check with 32 bits of IEEE 802.3, least significant bit first: the checksum
that a store sends along with a response body.
-/

namespace ItemStore.Checksum

/-- The generator polynomial without its leading term, least significant bit first. -/
def polynomial : UInt32 := 0xEDB88320

/-- Divides one bit off a remainder. -/
def stepBit (remainder : UInt32) : UInt32 :=
  if remainder &&& 1 = 1 then (remainder >>> 1) ^^^ polynomial else remainder >>> 1

/-- Takes one byte into a remainder. -/
def stepByte (remainder : UInt32) (byte : UInt8) : UInt32 :=
  Nat.repeat stepBit 8 (remainder ^^^ byte.toUInt32)

/-- The checksum of a byte sequence. -/
def crc32 (bytes : List UInt8) : UInt32 :=
  bytes.foldl stepByte 0xFFFFFFFF ^^^ 0xFFFFFFFF

end ItemStore.Checksum
