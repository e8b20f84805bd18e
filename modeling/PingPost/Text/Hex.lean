import PingPost.Text.Digits

/-! Bytes as hexadecimal text. -/

namespace PingPost.Text

/-- Two lower-case digits for each byte. -/
def toHex (bytes : List UInt8) : String :=
  String.ofList
    (bytes.flatMap fun b => [Nat.digitChar (b.toNat / 16), Nat.digitChar (b.toNat % 16)])

/-- Reads two digits, of either case, for each byte. -/
def ofHexChars? : List Char → Option (List UInt8)
  | [] => some []
  | [_] => none
  | a :: b :: rest => do
    let high ← hexValue? a
    let low ← hexValue? b
    let bytes ← ofHexChars? rest
    return UInt8.ofNat (16 * high + low) :: bytes

/-- Reads two digits, of either case, for each byte. -/
def ofHex? (s : String) : Option (List UInt8) := ofHexChars? s.toList

end PingPost.Text
