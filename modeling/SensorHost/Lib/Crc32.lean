import SensorHost.Lib.Bytes

/-!
# CRC-32

The checksum of `zlib.crc32`: reflected polynomial 0xEDB88320, initial value and final complement
all ones, one bit of the input at a time.

The frame formats are developed over an arbitrary checksum function, so that no theorem about them
depends on what the checksum computes; this one runs the examples, where a literal byte string must
be accepted by the real parser.
-/

namespace SensorHost.Lib

/-- Shift `n` bits out of the register. -/
def crcShift : Nat → Nat → Nat
  | 0, x => x
  | n + 1, x => crcShift n (if x % 2 = 1 then (x / 2) ^^^ 0xEDB88320 else x / 2)

/-- Feed one byte into the register. -/
def crcByte (x : Nat) (b : UInt8) : Nat := crcShift 8 (x ^^^ b.toNat)

/-- `zlib.crc32(data) & 0xFFFFFFFF`. -/
def zlibCrc32 (bs : Bytes) : UInt32 :=
  UInt32.ofNat (bs.foldl crcByte 0xFFFFFFFF ^^^ 0xFFFFFFFF)

/-- The check value of the algorithm: the checksum of the nine bytes `123456789`. -/
example :
    zlibCrc32 [0x31, 0x32, 0x33, 0x34, 0x35, 0x36, 0x37, 0x38, 0x39] = 0xCBF43926 := by
  decide +kernel

end SensorHost.Lib
