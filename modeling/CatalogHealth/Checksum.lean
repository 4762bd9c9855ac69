/-!
# Cyclic checksums

The 32-bit cyclic redundancy check with the reflected polynomial `0xEDB88320`,
the register starting and ending inverted. It is a left fold over the bytes, so
the checksum of a concatenation continues from the register of its first part.
-/

namespace CatalogHealth

/-- The register after one more bit was shifted out. -/
def checksumShift (register : UInt32) : UInt32 :=
  if register &&& 1 = 1 then (register >>> 1) ^^^ 0xEDB88320 else register >>> 1

/-- The register after one more byte. -/
def checksumByte (register : UInt32) (byte : UInt8) : UInt32 :=
  Nat.repeat checksumShift 8 (register ^^^ byte.toUInt32)

/-- The checksum of some bytes. -/
def checksum (bytes : List UInt8) : UInt32 := bytes.foldl checksumByte 0xFFFFFFFF ^^^ 0xFFFFFFFF

/-- The checksum of no bytes is zero. -/
example : checksum [] = 0 := by decide

/-- The checksum of the nine digits from 1 to 9, by which the polynomial and
the inversions are commonly identified. -/
example : checksum
    [0x31, 0x32, 0x33, 0x34, 0x35, 0x36, 0x37, 0x38, 0x39] = 0xCBF43926 := by
  decide +kernel

end CatalogHealth
