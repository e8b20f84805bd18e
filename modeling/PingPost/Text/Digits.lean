/-! Digits: reading runs of them, their values, and numbers padded with zeros. -/

namespace PingPost.Text

/-- Value of a list of ASCII decimal digits. -/
def digitsValue (ds : List Char) : Nat := ds.foldl (fun n c => 10 * n + (c.toNat - 48)) 0

/-- Splits off the leading ASCII digits. -/
def takeDigits (cs : List Char) : List Char × List Char :=
  (cs.takeWhile Char.isDigit, cs.dropWhile Char.isDigit)

/-- Value of a hexadecimal digit. -/
def hexValue? (c : Char) : Option Nat :=
  if c.isDigit then some (c.toNat - 48)
  else if 'a' ≤ c ∧ c ≤ 'f' then some (c.toNat - 87)
  else if 'A' ≤ c ∧ c ≤ 'F' then some (c.toNat - 55)
  else none

/-- Value of a list of digits in a base. -/
def digitsIn (base : Nat) (ds : List Nat) : Nat := ds.foldl (fun n d => base * n + d) 0

/-- Decimal digits of a number, with zeros in front up to a width. -/
def padZero (width n : Nat) : String :=
  let ds := Nat.toDigits 10 n
  String.ofList (List.replicate (width - ds.length) '0' ++ ds)

/-- A natural number below a bound: ASCII digits behind an optional plus sign. -/
def natBelow? (bound : Nat) (cs : List Char) : Option Nat :=
  let digits := match cs with
    | '+' :: rest => rest
    | cs => cs
  if digits ≠ [] ∧ digits.all Char.isDigit then (some (digitsValue digits)).filter (· < bound)
  else none

/-- A signed 64-bit integer: ASCII digits behind an optional sign. -/
def signedWord? (cs : List Char) : Option Int :=
  match cs with
  | '-' :: rest =>
    if rest ≠ [] ∧ rest.all Char.isDigit then
      (some (-(digitsValue rest : Int))).filter (-Nat.pow 2 63 ≤ ·)
    else none
  | cs => (natBelow? (Nat.pow 2 63) cs).map Int.ofNat

end PingPost.Text
