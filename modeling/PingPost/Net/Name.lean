import PingPost.Net.NameTable
import PingPost.Net.Punycode
import PingPost.Text.Direction
import PingPost.Text.Joining
import PingPost.Text.Property

/-!
Names of hosts in any script, and their ASCII form.

A name is brought to one spelling first: every character is replaced by its image, characters
without an image of their own disappear, and the rest is composed. Each label must then be well
formed, with joiners only where letters join. If some label runs from right to left, every label has
to run in one direction. A label that holds more than ASCII is written in Punycode behind `xn--`; a
label that arrives in that form must stand for a label in its one spelling.
-/

namespace PingPost.Net

/-! ## Characters -/

/-- The marks of tagged texts. -/
def tagCharacters : CharSet := .ofWritten "E0001 E0020-E007F"

/-- Invisible characters that names do without. -/
def ignoredCharacters : CharSet :=
  Text.PropertyRule.defaultIgnorable.set.diff (.unions [Text.Category.unassigned.set,
    Text.surrogates, Text.PropertyRule.bidiControl.set, Text.PropertyRule.joinControl.set,
    tagCharacters])

/-- Characters that no name may hold: those that stand for nothing, controls, and a few that would
be mistaken for dots and blanks. -/
def refusedCharacters : CharSet :=
  (CharSet.unions [Text.Category.unassigned.set, Text.Category.privateUse.set,
    Text.Category.control.set.diff (.range 0 0x7F),
    Text.Category.format.set.diff (.union ignoredCharacters Text.PropertyRule.joinControl.set),
    .ofWritten "1680 2024-2026 2028-2029 2488-249B 2FF0-2FFF 31EF 33C2 33C7 33D8 FE12 FE19 FE30
      FE52 FFFC-FFFD 1F100"])

/-- The characters that combine with the one before them. -/
def combiningCharacters : CharSet :=
  .unions [Text.Category.nonspacingMark.set, Text.Category.spacingMark.set,
    Text.Category.enclosingMark.set]

/-- A name in its one spelling. -/
def nameSpelling (cs : List Char) : List Char :=
  Text.composed ((cs.filter fun c => c.toNat < 128 || !ignoredCharacters.holds c).flatMap nameImage)

/-! ## Joiners -/

/-- The joiner that keeps letters apart. -/
def isNonJoiner (c : Char) : Bool := c.toNat == 0x200C

/-- The joiner that binds letters together. -/
def isJoiner (c : Char) : Bool := c.toNat == 0x200D

/-- Whether a character suppresses the vowel of the consonant before it. -/
def isVirama (c : Char) : Bool := Text.combiningClass c == 9

/-- Whether joiners stand only where letters join: behind a virama, or, for the one that keeps
letters apart, between letters that connect. The characters before come last one first. -/
def joinersFit (before : List Char) : List Char → Bool
  | [] => true
  | c :: after =>
    (!(isNonJoiner c || isJoiner c) || before.head?.any isVirama ||
      (isNonJoiner c && Text.connects before after)) && joinersFit (c :: before) after

/-! ## Directions -/

/-- The last direction, marks apart. -/
def lastDirection (ds : List Text.Direction) : Option Text.Direction :=
  (ds.reverse.dropWhile (· == .mark)).head?

/-- Whether a label runs in one direction: one that starts to the left holds no letters to the
right and not both kinds of numbers, and ends in a letter or a number; one that starts to the right
holds nothing to the left and ends in a letter or a European number. -/
def runsOneWay (label : List Char) : Bool :=
  let ds := label.map Text.Direction.of
  match ds with
  | [] => true
  | .toLeft :: _ =>
    !ds.contains .toRight && !(ds.contains .europeanNumber && ds.contains .arabicNumber) &&
      (lastDirection ds).any fun d => d == .toLeft || d == .europeanNumber || d == .arabicNumber
  | .toRight :: _ =>
    !ds.contains .toLeft && !ds.contains .arabicNumber &&
      (lastDirection ds).any fun d => d == .toRight || d == .europeanNumber
  | _ => false

/-! ## Labels -/

/-- The mark of a label in Punycode. -/
def punycodeMark : List Char := "xn--".toList

/-- The greatest length of a label that is written in Punycode. -/
def longestLabel : Nat := 1000

/-- The greatest length of a label that is read from Punycode. -/
def longestEncoded : Nat := 2000

/-- Whether a label of more than ASCII is well formed. -/
def isWellFormed (label : List Char) : Bool :=
  label.all (!refusedCharacters.holds ·) && !label.head?.any combiningCharacters.holds &&
    joinersFit [] label

/-- A label as it reads: the one that Punycode stands for, or itself. -/
def readLabel? (label : List Char) : Option (List Char) :=
  if label.all (·.toNat < 128) then
    if punycodeMark.isPrefixOf label then do
      let encoded := label.drop 4
      if longestEncoded < encoded.length then none
      let read ← Punycode.decode? encoded
      if read.all (·.toNat < 128) || nameSpelling read != read || !isWellFormed read then none
      else some read
    else some label
  else if punycodeMark.isPrefixOf label || !isWellFormed label || longestLabel < label.length then
    none
  else some label

/-- A label in ASCII. -/
def asciiLabel (label : List Char) : List Char :=
  if label.all (·.toNat < 128) then label else punycodeMark ++ Punycode.encode label

/-- A name in ASCII. -/
def asciiName? (cs : List Char) : Option (List Char) := do
  let labels := (nameSpelling cs).splitOn '.'
  let read ← labels.mapM readLabel?
  if read.any (·.any fun c => (Text.Direction.of c).turns) && !read.all runsOneWay then none
  else some (List.intersperse ['.'] (labels.map asciiLabel)).flatten

end PingPost.Net
