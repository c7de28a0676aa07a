import TrafficFabric.Text

/-!
# Integrity checksums

`include/ctf/hash.hpp` and `src/hash.cpp`: CRC-32C, FNV-1a and the pair of
both over one byte stream.
-/

namespace TrafficFabric

/-- One bit of the reflected CRC-32C division. -/
def crcBit (crc : UInt32) : UInt32 :=
  if crc &&& 1 ≠ 0 then (crc >>> 1) ^^^ 0x82F63B78 else crc >>> 1

/-- `make_crc_table`. -/
def makeCrcTable : List UInt32 :=
  (List.range 256).map fun index =>
    crcBit (crcBit (crcBit (crcBit
      (crcBit (crcBit (crcBit (crcBit index.toUInt32)))))))

/-- One byte of the table-driven CRC loop. -/
def crcByte (crc : UInt32) (byte : UInt8) : UInt32 :=
  makeCrcTable.getD ((crc ^^^ byte.toUInt32) &&& 0xFF).toNat 0 ^^^ (crc >>> 8)

/-- `crc32c` with an explicit seed. -/
def crc32c (data : Bytes) (seed : UInt32) : UInt32 :=
  ~~~ (data.foldl crcByte (~~~ seed))

/-- `fnv1a64` with an explicit seed. -/
def fnv1a64 (data : Bytes) (seed : UInt64) : UInt64 :=
  data.foldl (fun hash byte => (hash ^^^ byte.toUInt64) * 0x100000001B3) seed

/-- A pair of independent checksums over one byte stream. -/
structure Digest where
  crc : UInt32 := 0
  fnv : UInt64 := 0xCBF29CE484222325
deriving DecidableEq

namespace Digest

def isZero (digest : Digest) : Bool :=
  digest.crc == 0 && digest.fnv == 0xCBF29CE484222325

/-- `DigestBuilder::update`; a digest is the state of its own builder. -/
def update (digest : Digest) (data : Bytes) : Digest where
  crc := crc32c data digest.crc
  fnv := fnv1a64 data digest.fnv

end Digest

example : crc32c (ascii "123456789") 0 = 0xE3069283 := by
  decide +kernel

end TrafficFabric
