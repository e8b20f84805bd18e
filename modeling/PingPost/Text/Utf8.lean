/-!
Bytes as text. `Text.ofBytes` reads UTF-8 and puts a replacement character for every longest
beginning of a character that is not finished, and for every byte that begins none.
-/

namespace PingPost.Text

/-- The bytes of a text in UTF-8. -/
def toBytes (s : String) : List UInt8 := s.toUTF8.toList

/-- Stands for what cannot be read. -/
def replacement : Char := Char.ofNat 0xFFFD

/-- How many bytes a character has that begins with the given byte. -/
def byteWidth (b : Nat) : Nat :=
  if b < 0x80 then 1
  else if 0xC2 ≤ b ∧ b ≤ 0xDF then 2
  else if 0xE0 ≤ b ∧ b ≤ 0xEF then 3
  else if 0xF0 ≤ b ∧ b ≤ 0xF4 then 4
  else 0

/-- Whether a byte may follow at place `i` of a character that begins with `lead`. -/
def mayFollow (lead i b : Nat) : Bool :=
  let low := if i = 1 ∧ lead = 0xE0 then 0xA0 else if i = 1 ∧ lead = 0xF0 then 0x90 else 0x80
  let high := if i = 1 ∧ lead = 0xED then 0x9F else if i = 1 ∧ lead = 0xF4 then 0x8F else 0xBF
  low ≤ b && b ≤ high

/-- How many of the next bytes continue a character, up to a number of them. -/
def continued (lead : Nat) : Nat → Nat → List UInt8 → Nat
  | _, 0, _ | _, _, [] => 0
  | i, n + 1, b :: bs => if mayFollow lead i b.toNat then continued lead (i + 1) n bs + 1 else 0

/-- The code point of a lead byte and its continuation. -/
def codePoint (lead width : Nat) (rest : List UInt8) : Nat :=
  let top := if width = 2 then lead - 0xC0 else if width = 3 then lead - 0xE0 else lead - 0xF0
  rest.foldl (fun n b => n * 64 + (b.toNat - 0x80)) top

/-- Reads bytes; the first argument bounds their number. -/
def charsOfBytes : Nat → List UInt8 → List Char
  | 0, _ | _, [] => []
  | fuel + 1, b :: bs =>
    let lead := b.toNat
    let width := byteWidth lead
    if width = 1 then Char.ofNat lead :: charsOfBytes fuel bs
    else if width = 0 then replacement :: charsOfBytes fuel bs
    else
      let n := continued lead 1 (width - 1) bs
      let c := if n = width - 1 then Char.ofNat (codePoint lead width (bs.take n)) else replacement
      c :: charsOfBytes fuel (bs.drop n)

/-- The text of some bytes. -/
def ofBytes (bytes : List UInt8) : String := String.ofList (charsOfBytes bytes.length bytes)

end PingPost.Text
