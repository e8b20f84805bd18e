import PingPost.Decimal.Binary

/-!
The shortest decimal of a binary64 number.

`Decimal.shortest` tries grids of 1, 2, … 17 significant digits. On each grid it tests the two
neighbours of the value against the interval of reals that round to it. The first grid with a
hit wins; of two hits the nearer is taken, and of two equally near the even one.
-/

namespace PingPost

/-- The number `digits · 10 ^ exponent`, without a sign. -/
structure Decimal where
  digits : Nat
  exponent : Int
  deriving DecidableEq, Repr

namespace Decimal

/-- How many decimal digits a natural number is written with. -/
def digitCount (n : Nat) : Nat := (Nat.toDigits 10 n).length

/-- Exponent of the leading digit of `num / den`. -/
def leadingExponent (num den : Nat) : Int :=
  if den ≤ num then (digitCount (num / den) : Int) - 1
  else -(digitCount ((den + num - 1) / num - 1) : Int)

/-- The reals that round to a number, as ends over a common denominator. -/
structure Interval where
  low : Nat
  value : Nat
  high : Nat
  den : Nat
  closed : Bool

namespace Interval

/-- Rounding interval of a positive binary64 number. -/
def ofDyadic (d : Dyadic) : Interval :=
  let unit := Nat.pow 2 (d.exponent - 2).toNat
  let narrow := d.mantissa = Nat.pow 2 52 ∧ -1074 < d.exponent
  { low := (4 * d.mantissa - if narrow then 1 else 2) * unit
    value := 4 * d.mantissa * unit
    high := (4 * d.mantissa + 2) * unit
    den := Nat.pow 2 (2 - d.exponent).toNat
    closed := d.mantissa % 2 = 0 }

/-- Whether the grid point `n · 10 ^ k` lies in the interval. -/
def holds (r : Interval) (n : Nat) (k : Int) : Bool :=
  let point := n * Nat.pow 10 k.toNat * r.den
  let scale := Nat.pow 10 (-k).toNat
  if r.closed then r.low * scale ≤ point && point ≤ r.high * scale
  else r.low * scale < point && point < r.high * scale

/-- The better of the two neighbours on the grid of `10 ^ k`, when one of them is in. -/
def hit? (r : Interval) (k : Int) : Option Nat :=
  let top := r.value * Nat.pow 10 (-k).toNat
  let step := r.den * Nat.pow 10 k.toNat
  let below := top / step
  let twice := 2 * (top % step)
  match r.holds below k, r.holds (below + 1) k with
  | true, true =>
    if twice < step then some below
    else if step < twice then some (below + 1)
    else if below % 2 = 0 then some below else some (below + 1)
  | true, false => some below
  | false, true => some (below + 1)
  | false, false => none

/-- First hit on the grids with `count`, `count + 1`, … significant digits. -/
def search (r : Interval) (lead : Int) (count : Nat) : Nat → Decimal
  | 0 =>
    ⟨r.value * Nat.pow 10 (17 - lead).toNat / (r.den * Nat.pow 10 (lead - 17).toNat), lead - 17⟩
  | fuel + 1 =>
    let k := lead - count + 1
    match r.hit? k with
    | some n => ⟨n, k⟩
    | none => search r lead (count + 1) fuel

end Interval

/-- Drops trailing zeros of the digits into the exponent. -/
def normalize (d : Decimal) : Nat → Decimal
  | 0 => d
  | fuel + 1 =>
    if d.digits ≠ 0 ∧ d.digits % 10 = 0 then normalize ⟨d.digits / 10, d.exponent + 1⟩ fuel else d

/-- The shortest decimal that reads back as the magnitude of a finite number. -/
def shortest (x : Float) : Decimal :=
  let d := Dyadic.ofFloat x
  if d.mantissa = 0 then ⟨0, 0⟩
  else
    let r := Interval.ofDyadic d
    (r.search (leadingExponent r.value r.den) 1 17).normalize 20

/-- The digits as text. -/
def text (d : Decimal) : String := toString d.digits

/-- Power of ten of the leading digit. -/
def lead (d : Decimal) : Int := d.exponent + digitCount d.digits - 1

/-- Positional text, with a point only when digits follow it. -/
def positional (d : Decimal) : String :=
  let ds := Nat.toDigits 10 d.digits
  if 0 ≤ d.exponent then String.ofList (ds ++ List.replicate d.exponent.toNat '0')
  else
    let places := (-d.exponent).toNat
    let padded := List.replicate (places + 1 - ds.length) '0' ++ ds
    String.ofList
      (padded.take (padded.length - places) ++ '.' :: padded.drop (padded.length - places))

end Decimal

end PingPost
