/-!
Finite binary64 numbers as exact integers times powers of two, and the way back: the binary64
number nearest to a ratio of natural numbers. Every rounding in the library goes through these
two, so it is exact arithmetic on natural numbers.
-/

namespace PingPost

/-- A binary64 number that is neither infinite nor a NaN. -/
abbrev Finite := { x : Float // x.isFinite = true }

/-- The number `± mantissa · 2 ^ exponent`. -/
structure Dyadic where
  negative : Bool
  mantissa : Nat
  exponent : Int
  deriving DecidableEq, Repr

namespace Dyadic

/-- Exact value of a finite binary64 number. -/
def ofFloat (x : Float) : Dyadic :=
  let bits := x.toBits.toNat
  let scale : Nat := bits / Nat.pow 2 52 % Nat.pow 2 11
  let fraction : Nat := bits % Nat.pow 2 52
  { negative := bits / Nat.pow 2 63 = 1
    mantissa := if scale = 0 then fraction else Nat.pow 2 52 + fraction
    exponent := if scale = 0 then -1074 else (scale : Int) - 1075 }

/-- Numerator of the magnitude over a power of two. -/
def num (d : Dyadic) : Nat := d.mantissa * Nat.pow 2 d.exponent.toNat

/-- Denominator of the magnitude. -/
def den (d : Dyadic) : Nat := Nat.pow 2 (-d.exponent).toNat

/-- Whether the value is an integer. -/
def isInteger (d : Dyadic) : Bool := d.num % d.den = 0

/-- The integer part, toward zero. -/
def truncate (d : Dyadic) : Int :=
  if d.negative then -((d.num / d.den : Nat) : Int) else (d.num / d.den : Nat)

/-- The greatest integer that is not above the value. -/
def floor (d : Dyadic) : Int :=
  if d.negative then -(((d.num + d.den - 1) / d.den : Nat) : Int) else (d.num / d.den : Nat)

/-- The magnitude at the nearest integer; a half goes up. -/
def roundMagnitude (d : Dyadic) : Nat := (2 * d.num + d.den) / (2 * d.den)

end Dyadic

/-- The quotient at the nearest integer; a half goes to the even neighbour. -/
def roundDivEven (num den : Nat) : Nat :=
  let q := num / den
  let r := 2 * (num % den)
  if r < den then q else if den < r then q + 1 else if q % 2 = 0 then q else q + 1

namespace Float64

/-- The binary64 number of a sign and an unsigned bit pattern. -/
def ofMagnitude (negative : Bool) (bits : Nat) : Float :=
  Float.ofBits (UInt64.ofNat (if negative then Nat.pow 2 63 + bits else bits))

/-- Bit pattern of infinity, without the sign. -/
def infinityBits : Nat := 2047 * Nat.pow 2 52

/-- The binary64 number nearest to `± num / den`; ties go to the even mantissa, and a magnitude
past the range gives an infinity. -/
def ofRatio (negative : Bool) (num den : Nat) : Float :=
  if num = 0 then ofMagnitude negative 0 else
  let guess : Int := (Nat.log2 num : Int) - Nat.log2 den - 52
  let scaled (q : Int) : Nat × Nat := (num * Nat.pow 2 (-q).toNat, den * Nat.pow 2 q.toNat)
  let fits (q : Int) : Bool := (scaled q).1 / (scaled q).2 < Nat.pow 2 53
  let normal := if fits (guess - 1) then guess - 1 else if fits guess then guess else guess + 1
  let q := max normal (-1074)
  let mantissa := roundDivEven (scaled q).1 (scaled q).2
  let bits :=
    if mantissa < Nat.pow 2 52 then mantissa else (q + 1074).toNat * Nat.pow 2 52 + mantissa
  ofMagnitude negative (min bits infinityBits)

/-- The binary64 number nearest to an integer. -/
def ofInt (n : Int) : Float := ofRatio (n < 0) n.natAbs 1

/-- The number at the nearest integer; a half goes away from zero. Integers, infinities and
NaNs are left alone, and the sign of a zero is kept. -/
def round (x : Float) : Float :=
  if x.isFinite && !(Dyadic.ofFloat x).isInteger then
    let d := Dyadic.ofFloat x
    ofRatio d.negative d.roundMagnitude 1
  else x

/-- Whether the number is a finite integer. -/
def isInteger (x : Float) : Bool := x.isFinite && (Dyadic.ofFloat x).isInteger

/-- An integer clamped to the signed 64-bit range. -/
def clampSigned (n : Int) : Int := max (-Nat.pow 2 63) (min n (Nat.pow 2 63 - 1))

/-- The sign bit. -/
def isNegative (x : Float) : Bool := x.toBits.toNat / Nat.pow 2 63 = 1

/-- The integer of a rule applied to the exact value, clamped to the signed 64-bit range; a NaN
counts as zero and an infinity as the nearer end of the range. -/
def toSigned (rule : Dyadic → Int) (x : Float) : Int :=
  if x.isNaN then 0
  else if x.isFinite then clampSigned (rule (Dyadic.ofFloat x))
  else if isNegative x then -Nat.pow 2 63 else Nat.pow 2 63 - 1

/-- A binary64 number as it is kept: 64 bits. NaNs, which `Float` does not tell apart, have a sign
and a payload here. -/
structure Word where
  bits : UInt64
  deriving DecidableEq, Repr

namespace Word

/-- The NaN that arithmetic on numbers makes on the machine, where its sign bit is set. -/
def machineNaN : Word := ⟨0xFFF8000000000000⟩

/-- The bits of a result of arithmetic. -/
def ofFloat (x : Float) : Word := if x.isNaN then machineNaN else ⟨x.toBits⟩

/-- The number. -/
def toFloat (w : Word) : Float := .ofBits w.bits

/-- The sign bit. -/
def isNegative (w : Word) : Bool := w.bits.toNat / Nat.pow 2 63 = 1

/-- The bits behind the exponent. -/
def payload (w : Word) : Nat := w.bits.toNat % Nat.pow 2 52

/-- Whether the bits stand for no number. -/
def isNaN (w : Word) : Bool := w.bits.toNat / Nat.pow 2 52 % Nat.pow 2 11 = 2047 ∧ w.payload ≠ 0

/-- Key that orders all words by value, negative zero before positive zero, and NaNs outermost,
those with the sign bit first. -/
def orderKey (w : Word) : Int :=
  let bits := w.bits.toNat
  if w.isNegative then -((bits % Nat.pow 2 63 : Nat) : Int) - 1 else bits

end Word

end Float64

end PingPost
