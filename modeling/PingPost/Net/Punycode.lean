/-!
Punycode: the encoding of a label of arbitrary characters into ASCII letters, digits and hyphens.
-/

namespace PingPost.Net.Punycode

/-- Digit of a value below 36. -/
def digit (n : Nat) : Char := if n < 26 then Char.ofNat (97 + n) else Char.ofNat (22 + n)

/-- Value of a digit. -/
def value? (c : Char) : Option Nat :=
  if 'a' ≤ c ∧ c ≤ 'z' then some (c.toNat - 97)
  else if 'A' ≤ c ∧ c ≤ 'Z' then some (c.toNat - 65)
  else if c.isDigit then some (c.toNat - 22)
  else none

/-- Reduces a large difference, counting the steps of the bias. -/
def damp : Nat → Nat → Nat → Nat
  | 0, k, delta => k + 36 * delta / (delta + 38)
  | fuel + 1, k, delta =>
    if 455 < delta then damp fuel (k + 36) (delta / 35) else k + 36 * delta / (delta + 38)

/-- The bias after a code point. -/
def adapt (delta points : Nat) (first : Bool) : Nat :=
  let delta := if first then delta / 700 else delta / 2
  damp 64 0 (delta + delta / points)

/-- Threshold of a digit position. -/
def threshold (k bias : Nat) : Nat :=
  if k ≤ bias then 1 else if bias + 26 ≤ k then 26 else k - bias

/-- Digits of a variable-length integer. -/
def integer (bias : Nat) : Nat → Nat → Nat → List Char
  | 0, _, _ => []
  | fuel + 1, k, q =>
    let t := threshold k bias
    if q < t then [digit q]
    else digit (t + (q - t) % (36 - t)) :: integer bias fuel (k + 36) ((q - t) / (36 - t))

/-- What the encoder carries along: the difference, the bias, the characters done and the digits
so far, last digit first. -/
structure Progress where
  delta : Nat
  bias : Nat
  done : Nat
  out : List Char

/-- Encodes the occurrences of one code point. -/
def encodePoint (basic n : Nat) (p : Progress) : List Nat → Progress
  | [] => p
  | c :: cs =>
    if c < n then encodePoint basic n { p with delta := p.delta + 1 } cs
    else if c = n then
      let ds := integer p.bias 64 36 p.delta
      encodePoint basic n
        { delta := 0
          bias := adapt p.delta (p.done + 1) (p.done == basic)
          done := p.done + 1
          out := ds.reverse ++ p.out } cs
    else encodePoint basic n p cs

/-- Encodes the code points from `n` on. -/
def encodeFrom (points : List Nat) (basic : Nat) : Nat → Nat → Progress → Progress
  | 0, _, p => p
  | fuel + 1, n, p =>
    match (points.filter (n ≤ ·)).min? with
    | none => p
    | some m =>
      let p := { p with delta := p.delta + (m - n) * (p.done + 1) }
      let p := encodePoint basic m p points
      encodeFrom points basic fuel (m + 1) { p with delta := p.delta + 1 }

/-- Encodes a label. -/
def encode (label : List Char) : List Char :=
  let plain := label.filter (·.toNat < 128)
  let front := if plain.isEmpty then [] else plain ++ ['-']
  let start : Progress := { delta := 0, bias := 72, done := plain.length, out := front.reverse }
  (encodeFrom (label.map Char.toNat) plain.length (label.length + 1) 128 start).out.reverse

/-- Reads a variable-length integer. -/
def readInteger? (bias : Nat) : Nat → Nat → Nat → List Char → Option (Nat × List Char)
  | _, _, _, [] => none
  | k, weight, acc, c :: cs =>
    match value? c with
    | none => none
    | some d =>
      let acc := acc + d * weight
      let t := threshold k bias
      if Nat.pow 2 32 ≤ acc then none
      else if d < t then some (acc, cs)
      else readInteger? bias (k + 36) (weight * (36 - t)) acc cs

/-- Decodes the digits after the plain characters. -/
def decodeFrom? : Nat → Nat → Nat → Nat → List Nat → List Char → Option (List Nat)
  | _, _, _, _, out, [] => some out
  | 0, _, _, _, _, _ => none
  | fuel + 1, n, i, bias, out, cs =>
    match readInteger? bias 36 1 i cs with
    | none => none
    | some (j, rest) =>
      let size := out.length + 1
      let m := n + j / size
      let at_ := j % size
      if 0x10FFFF < m ∨ (0xD800 ≤ m ∧ m ≤ 0xDFFF) then none
      else
        decodeFrom? fuel m (at_ + 1) (adapt (j - i) size (i == 0 && n == 128))
          (out.take at_ ++ m :: out.drop at_) rest

/-- Decodes a label. -/
def decode? (cs : List Char) : Option (List Char) :=
  let back := cs.reverse
  let digits := (back.takeWhile (· != '-')).reverse
  let plain := if back.contains '-' then cs.take (cs.length - digits.length - 1) else []
  (decodeFrom? (digits.length + 1) 128 0 72 (plain.map Char.toNat) digits).map (·.map Char.ofNat)

end PingPost.Net.Punycode
