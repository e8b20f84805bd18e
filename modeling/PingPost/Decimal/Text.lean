import PingPost.Decimal.Shortest
import PingPost.Text.Digits

/-!
Decimal text of binary64 numbers: the document layout (a point or an exponent always shows), the
positional layout, a fixed number of places, and the reader of free-standing numerals.
-/

namespace PingPost.Float64

open Text

/-- Puts the sign of `x` in front of the text of its magnitude. -/
def signed (x : Float) (magnitude : String) : String :=
  if isNegative x then "-" ++ magnitude else magnitude

/-- Text of a number that is not finite. -/
def nonFiniteText (x : Float) : String := if x.isNaN then "NaN" else signed x "inf"

/-- Document layout of a finite number: positional while the leading digit stands for a power
of ten from -5 to 15, else one digit before the point and a signed exponent. Integers in
positional form end in `.0`. -/
def documentText (x : Float) : String :=
  let d := Decimal.shortest x
  let lead := if d.digits = 0 then 0 else d.lead
  signed x <|
    if -5 ≤ lead ∧ lead < 16 then
      if 0 ≤ d.exponent then d.positional ++ ".0" else d.positional
    else
      let ds := Nat.toDigits 10 d.digits
      let mantissa := match ds with
        | [] => "0"
        | [c] => c.toString
        | c :: rest => c.toString ++ "." ++ String.ofList rest
      mantissa ++ (if lead < 0 then "e-" else "e+") ++ toString lead.natAbs

/-- Positional layout without an exponent; integers have no point. -/
def plainText (x : Float) : String :=
  if x.isFinite then signed x (Decimal.shortest x).positional else nonFiniteText x

/-- Fixed number of places; a half goes to the even neighbour. -/
def fixedText (places : Nat) (x : Float) : String :=
  if x.isFinite then
    let d := Dyadic.ofFloat x
    signed x (Decimal.positional ⟨roundDivEven (d.num * Nat.pow 10 places) d.den, -(places : Int)⟩)
  else nonFiniteText x

/-- The number `± digits · 10 ^ exponent`, correctly rounded. Exponents far outside the range
are cut off first, so no huge power is formed. -/
def ofDecimal (negative : Bool) (digits : Nat) (exponent : Int) : Float :=
  if digits = 0 then ofMagnitude negative 0
  else
    let top := exponent + Decimal.digitCount digits
    if 400 < top then ofMagnitude negative infinityBits
    else if top < -400 then ofMagnitude negative 0
    else ofRatio negative (digits * Nat.pow 10 exponent.toNat) (Nat.pow 10 (-exponent).toNat)

/-- An optional exponent at the end of a numeral: `e`, an optional sign, and digits. -/
def exponent? : List Char → Option Int
  | [] => some 0
  | e :: rest =>
    if e = 'e' ∨ e = 'E' then
      let (negative, digits) := match rest with
        | '-' :: r => (true, r)
        | '+' :: r => (false, r)
        | r => (false, r)
      if digits ≠ [] ∧ digits.all Char.isDigit then
        some (if negative then -(digitsValue digits : Int) else digitsValue digits)
      else none
    else none

/-- The magnitude of a numeral: digits with at most one point and an optional exponent, at
least one digit before the exponent. -/
def magnitude? (negative : Bool) (cs : List Char) : Option Float :=
  let (whole, rest) := takeDigits cs
  let (fraction, rest) := match rest with
    | '.' :: r => takeDigits r
    | r => ([], r)
  if whole = [] ∧ fraction = [] then none
  else (exponent? rest).map fun e =>
    ofDecimal negative (digitsValue (whole ++ fraction)) (e - fraction.length)

/-- Reads a free-standing numeral with an optional sign. Only finite results count. -/
def ofNumeral? (cs : List Char) : Option Float :=
  let value := match cs with
    | '-' :: r => magnitude? true r
    | '+' :: r => magnitude? false r
    | r => magnitude? false r
  value.filter Float.isFinite

end PingPost.Float64
