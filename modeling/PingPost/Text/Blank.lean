/-!
White space: the characters with the Unicode property of that name, trimming, and words.
-/

namespace PingPost.Text

/-- Unicode `White_Space`. -/
def isBlank (c : Char) : Bool :=
  let n := c.toNat
  (9 ≤ n && n ≤ 13) || n == 0x20 || n == 0x85 || n == 0xA0 || n == 0x1680 ||
    (0x2000 ≤ n && n ≤ 0x200A) || n == 0x2028 || n == 0x2029 || n == 0x202F || n == 0x205F ||
    n == 0x3000

/-- Drops white space at both ends. -/
def trimChars (cs : List Char) : List Char :=
  ((cs.dropWhile isBlank).reverse.dropWhile isBlank).reverse

/-- Drops white space at both ends. -/
def trim (s : String) : String := String.ofList (trimChars s.toList)

/-- Whether nothing but white space is there. -/
def isBlankText (s : String) : Bool := s.toList.all isBlank

/-- The maximal runs of characters that do not satisfy `p`, in order. -/
def runsBetween (p : Char → Bool) (cs : List Char) : List (List Char) :=
  (cs.splitOnP p).filter (!·.isEmpty)

/-- The two sides of the first occurrence of a character. -/
def splitFirst? (sep : Char) : List Char → Option (List Char × List Char)
  | [] => none
  | c :: cs =>
    if c = sep then some ([], cs) else (splitFirst? sep cs).map fun (a, b) => (c :: a, b)

/-- The two sides of the last occurrence of a character. -/
def splitLast? (sep : Char) (cs : List Char) : Option (List Char × List Char) :=
  (splitFirst? sep cs.reverse).map fun (b, a) => (a.reverse, b.reverse)

/-- ASCII lower case of a character. -/
def asciiLower (c : Char) : Char := if 'A' ≤ c ∧ c ≤ 'Z' then Char.ofNat (c.toNat + 32) else c

/-- Equality up to the case of ASCII letters. -/
def sameIgnoringAsciiCase (s t : String) : Bool :=
  s.toList.map asciiLower == t.toList.map asciiLower

/-- ASCII digits of a text, in order. -/
def asciiDigits (s : String) : List Char := s.toList.filter Char.isDigit

end PingPost.Text
