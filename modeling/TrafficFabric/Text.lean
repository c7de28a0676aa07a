import Mathlib.Data.List.Basic

/-!
# Bytes, text and decimal forms

The sources hold text in `std::string`, a sequence of bytes.  A `Text` is
such a sequence; literals are ASCII.  `decimal` and `signedDecimal` follow
`std::to_string`.
-/

namespace TrafficFabric

/-- A byte buffer. -/
abbrev Bytes := List UInt8

/-- The bytes of a `std::string`. -/
abbrev Text := List UInt8

/-- The bytes of an ASCII literal. -/
def ascii (literal : String) : Text :=
  literal.toList.map (fun character => character.toNat.toUInt8)

/-- `std::to_string` of an unsigned value. -/
def decimal (value : Nat) : Text :=
  (Nat.toDigits 10 value).map (fun digit => digit.toNat.toUInt8)

/-- `std::to_string` of a signed value. -/
def signedDecimal (value : Int) : Text :=
  match value with
  | .ofNat magnitude => decimal magnitude
  | .negSucc magnitude => ascii "-" ++ decimal (magnitude + 1)

/-- One lower-case hexadecimal digit. -/
def hexDigit (value : Nat) : UInt8 :=
  if value < 10 then (48 + value).toUInt8 else (87 + value).toUInt8

/-- Big-endian bytes of a 32-bit value. -/
def bigEndian32 (value : UInt32) : Bytes :=
  [(value >>> 24).toUInt8, (value >>> 16).toUInt8,
    (value >>> 8).toUInt8, value.toUInt8]

/-- Big-endian bytes of a 64-bit value. -/
def bigEndian64 (value : UInt64) : Bytes :=
  [(value >>> 56).toUInt8, (value >>> 48).toUInt8,
    (value >>> 40).toUInt8, (value >>> 32).toUInt8,
    (value >>> 24).toUInt8, (value >>> 16).toUInt8,
    (value >>> 8).toUInt8, value.toUInt8]

end TrafficFabric
