import PingPost.Text.Digits

/-!
Internet addresses in their two textual forms.

A version 4 address is four decimal bytes without leading zeros. A version 6 address is eight
hexadecimal groups of which one run of zero groups may be left out, and whose last two groups may
be written as a version 4 address. The printer leaves out the first longest run of at least two
zero groups.
-/

namespace PingPost.Net

open Text

/-- An internet address. -/
inductive Address where
  | v4 (bytes : List Nat)
  | v6 (groups : List Nat)
  deriving DecidableEq, Repr

/-- A decimal byte of at most three digits without a leading zero. -/
def byte? (cs : List Char) : Option (Nat × List Char) :=
  let (ds, rest) := takeDigits cs
  let n := digitsValue ds
  if ds = [] ∨ 3 < ds.length ∨ (1 < ds.length ∧ ds.head? = some '0') ∨ 255 < n then none
  else some (n, rest)

/-- A dot and a byte. -/
def dotByte? : List Char → Option (Nat × List Char)
  | '.' :: cs => byte? cs
  | _ => none

/-- A version 4 address in front of a text. -/
def v4Front? (cs : List Char) : Option (List Nat × List Char) := do
  let (a, r) ← byte? cs
  let (b, r) ← dotByte? r
  let (c, r) ← dotByte? r
  let (d, r) ← dotByte? r
  return ([a, b, c, d], r)

/-- A group of one to four hexadecimal digits. -/
def group? (cs : List Char) : Option (Nat × List Char) :=
  let ds := cs.takeWhile fun c => (hexValue? c).isSome
  if ds = [] ∨ 4 < ds.length then none
  else some (digitsIn 16 (ds.filterMap hexValue?), cs.drop ds.length)

/-- The text after the colon that separates groups; the first group has none. -/
def afterColon? (first : Bool) (cs : List Char) : Option (List Char) :=
  if first then some cs
  else match cs with
    | ':' :: r => some r
    | _ => none

/-- As many groups as there are, at most `limit`; the flag tells that the last two came from a
version 4 address. -/
def groups (first : Bool) : Nat → List Char → List Nat × Bool × List Char
  | 0, cs => ([], false, cs)
  | limit + 1, cs =>
    let embedded := if limit = 0 then none else (afterColon? first cs).bind v4Front?
    match embedded with
    | some ([a, b, c, d], rest) => ([256 * a + b, 256 * c + d], true, rest)
    | _ =>
      match (afterColon? first cs).bind group? with
      | some (g, rest) =>
        let (gs, v4, rest) := groups false limit rest
        (g :: gs, v4, rest)
      | none => ([], false, cs)

/-- A version 6 address in front of a text. -/
def v6Front? (cs : List Char) : Option (List Nat × List Char) :=
  let (head, v4, rest) := groups true 8 cs
  if head.length = 8 then some (head, rest)
  else if v4 then none
  else match rest with
    | ':' :: ':' :: rest =>
      let (tail, _, rest) := groups true (7 - head.length) rest
      some (head ++ List.replicate (8 - head.length - tail.length) 0 ++ tail, rest)
    | _ => none

/-- Reads a version 6 address. -/
def v6? (cs : List Char) : Option (List Nat) :=
  match v6Front? cs with
  | some (gs, []) => some gs
  | _ => none

/-- Reads an address of either version. -/
def Address.ofText? (s : String) : Option Address :=
  let cs := s.toList
  match v4Front? cs with
  | some (bytes, []) => some (.v4 bytes)
  | _ => (v6? cs).map .v6

/-- Length of the run of zeros in front. -/
def zerosFront (gs : List Nat) : Nat := (gs.takeWhile (· == 0)).length

/-- Start and length of the first longest run of zero groups. -/
def longestZeros (gs : List Nat) : Nat × Nat :=
  (List.range gs.length).foldl
    (fun best i =>
      let n := zerosFront (gs.drop i)
      if best.2 < n then (i, n) else best)
    (0, 0)

/-- Groups in hexadecimal with colons between. -/
def groupsText (gs : List Nat) : String :=
  ":".intercalate (gs.map fun g => String.ofList (Nat.toDigits 16 g))

/-- Bytes in decimal with dots between. -/
def bytesText (bytes : List Nat) : String := ".".intercalate (bytes.map toString)

/-- Eight groups with the longest run of at least two zeros left out. -/
def compressedText (gs : List Nat) : String :=
  let (start, n) := longestZeros gs
  if 1 < n then groupsText (gs.take start) ++ "::" ++ groupsText (gs.drop (start + n))
  else groupsText gs

/-- Text of an address. A version 4 address mapped into version 6 shows its bytes. -/
def Address.text : Address → String
  | .v4 bytes => bytesText bytes
  | .v6 [0, 0, 0, 0, 0, 0xffff, a, b] =>
    "::ffff:" ++ bytesText [a / 256, a % 256, b / 256, b % 256]
  | .v6 gs => compressedText gs

end PingPost.Net
