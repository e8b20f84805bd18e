import PingPost.Text.Property

/-!
Membership in the classes of characters that the library asks about most. For each, ASCII is
decided by comparison and the rest by the set of the property.
-/

namespace PingPost.Text

/-- The alphabetic characters. -/
def alphabeticCharacters : CharSet := PropertyRule.alphabetic.set

/-- The alphabetic characters and the numbers of every kind. -/
def alphanumericCharacters : CharSet :=
  .unions [alphabeticCharacters, decimalDigits, Category.letterNumber.set, Category.otherNumber.set]

/-- The characters of words: alphabetic ones, marks, decimal digits, connecting punctuation, and
the two joiners. -/
def wordCharacters : CharSet :=
  .unions [alphabeticCharacters, decimalDigits, Category.nonspacingMark.set,
    Category.spacingMark.set, Category.enclosingMark.set, Category.connector.set,
    .range 0x200C 0x200D]

/-- The cased characters. -/
def casedCharacters : CharSet := PropertyRule.cased.set

/-- The characters that are ignored for case. -/
def caseIgnorableCharacters : CharSet := PropertyRule.caseIgnorable.set

/-- Alphabetic. -/
def isAlphabetic (c : Char) : Bool :=
  if c.toNat < 128 then c.isAlpha else alphabeticCharacters.holds c

/-- Alphabetic or numeric. -/
def isAlphanumeric (c : Char) : Bool :=
  if c.toNat < 128 then c.isAlphanum else alphanumericCharacters.holds c

/-- A decimal digit of any script. -/
def isDecimalDigit (c : Char) : Bool :=
  if c.toNat < 128 then c.isDigit
  else decimalZeros.any fun z => z ≤ c.toNat && c.toNat < z + 10

/-- A character of words. -/
def isWord (c : Char) : Bool :=
  if c.toNat < 128 then c.isAlphanum || c == '_' else wordCharacters.holds c

/-- Property `Cased`. -/
def isCased (c : Char) : Bool := if c.toNat < 128 then c.isAlpha else casedCharacters.holds c

/-- Property `Case_Ignorable`. -/
def isCaseIgnorable (c : Char) : Bool := caseIgnorableCharacters.holds c

end PingPost.Text
