import MetadataHarvest.Number.Digits

/-!
# Percent encoding

A percent sign with two hexadecimal digits stands for a byte. Decoding leaves a percent
sign alone when no two digits follow it.
-/

namespace MetadataHarvest.Url

open MetadataHarvest.Number

/-- The value of two hexadecimal digits. -/
def hexByte? (high low : UInt8) : Option UInt8 := do
  let h ← digit? 16 (Char.ofNat high.toNat)
  let l ← digit? 16 (Char.ofNat low.toNat)
  return UInt8.ofNat (h * 16 + l)

/-- The bytes that a text stands for. -/
def percentDecode : List UInt8 → List UInt8
  | [] => []
  | 0x25 :: high :: low :: rest =>
    match hexByte? high low with
    | some byte => byte :: percentDecode rest
    | none => 0x25 :: percentDecode (high :: low :: rest)
  | byte :: rest => byte :: percentDecode rest

/-- A hexadecimal digit in upper case. -/
def hexDigit (n : Nat) : Char := (Nat.digitChar n).toUpper

/-- A percent sign and the two digits of a byte. -/
def percentEncode (byte : UInt8) : List Char :=
  ['%', hexDigit (byte.toNat / 16), hexDigit (byte.toNat % 16)]

end MetadataHarvest.Url
