import PingPost.Phone.Plan
import PingPost.Pattern.Removal
import PingPost.Text.Class
import PingPost.Text.Digits

/-!
Telephone numbers as people write them, read with the United States as the home country.

A number may come in the form of a telephone address: a calling code behind a plus sign or in the
parameter `phone-context`, then digits with marks between, then parameters. Any other text is
searched for a number. The search starts at the first plus sign or digit; an extension is set
aside, letters become the digits of a keypad when there are at least three, and marks are dropped.
A plus sign or the international call digits `011` are followed by a calling code; other numbers
belong to calling code 1. The home country's trunk digit 1 is dropped from the front of the national
number, whatever the calling code.
-/

namespace PingPost.Phone

/-- Why a text is no telephone number. -/
inductive PhoneError where
  | noNumber
  | invalidCountryCode
  | tooShort
  | tooLong
  /-- A calling code without digits. -/
  | emptyCode
  /-- A calling code above the greatest number of two bytes. -/
  | codeOverflow
  deriving DecidableEq, Repr

/-- Name of an error. -/
def PhoneError.name : PhoneError → String
  | .noNumber => "NoNumber"
  | .invalidCountryCode => "InvalidCountryCode"
  | .tooShort => "TooShortNsn"
  | .tooLong => "TooLong"
  | .emptyCode => "MalformedInteger(ParseIntError \x7b kind: Empty \x7d)"
  | .codeOverflow => "MalformedInteger(ParseIntError \x7b kind: PosOverflow \x7d)"

/-- A telephone number: its calling code and the digits of its national part. -/
structure PhoneNumber where
  code : Nat
  national : List Char
  deriving DecidableEq, Repr

/-! ## Characters -/

/-- Marks between the digits. -/
def isPunctuation (c : Char) : Bool :=
  let n := c.toNat
  "-xX*/ ()[].~".toList.contains c || (0x2010 ≤ n && n ≤ 0x2015) ||
    [0x2212, 0x30FC, 0xFF0D, 0xFF0F, 0x3000, 0xA0, 0xAD, 0x200B, 0x2060, 0xFF08, 0xFF09, 0xFF0E,
      0xFF3B, 0xFF3D, 0x2053, 0x223C, 0xFF5E].contains n

/-- Plus signs. -/
def isPlus (c : Char) : Bool := c == '+' || c.toNat == 0xFF0B

/-- Digit of a letter on a keypad. -/
def keypadDigit (c : Char) : Char :=
  let c := Text.asciiLower c
  if c ≤ 'c' then '2' else if c ≤ 'f' then '3' else if c ≤ 'i' then '4' else if c ≤ 'l' then '5'
  else if c ≤ 'o' then '6' else if c ≤ 's' then '7' else if c ≤ 'v' then '8' else '9'

/-- The digits of a written number; letters count when there are at least three. -/
def dialled (cs : List Char) : List Char :=
  if 3 ≤ (cs.filter Char.isAlpha).length then
    (cs.filter Char.isAlphanum).map fun c => if c.isAlpha then keypadDigit c else c
  else cs.filter Char.isDigit

/-! ## Telephone addresses -/

/-- A written number, in pieces. -/
inductive WrittenNumber where
  /-- The calling code is written apart. -/
  | coded (code national : List Char)
  /-- All digits are in one piece; a plus sign says that a calling code is in front. -/
  | joined (hasPlus : Bool) (digits : List Char)
  deriving DecidableEq, Repr

/-- A character of a national number in an address. -/
def isAddressDigit (c : Char) : Bool := c.isDigit || "-.()*#".toList.contains c

/-- A character of the value of a parameter. -/
def isParameterChar (c : Char) : Bool := c.isAlphanum || "-_.!~*'()[]/:&+$%".toList.contains c

/-- The parameters of an address, as far as they are well formed. -/
def parameters : Nat → List Char → List (List Char × List Char)
  | fuel + 1, ';' :: cs =>
    let isNameChar (c : Char) : Bool := c.isAlphanum || c == '-'
    let name := cs.takeWhile isNameChar
    match name, cs.dropWhile isNameChar with
    | _ :: _, '=' :: cs =>
      (name, cs.takeWhile isParameterChar) :: parameters fuel (cs.dropWhile isParameterChar)
    | _, _ => []
  | _, _ => []

/-- The calling code that parameters name. -/
def contextCode? (ps : List (List Char × List Char)) : Option (List Char) :=
  (ps.find? (·.1 == "phone-context".toList)).map fun (_, value) =>
    match value with
    | '+' :: code => code
    | code => code

/-- The text behind the scheme of telephone addresses. -/
def withoutScheme (cs : List Char) : List Char :=
  if (cs.take 4).map Text.asciiLower = "tel:".toList then cs.drop 4 else cs

/-- Reads a telephone address. -/
def WrittenNumber.ofAddress? (cs : List Char) : Option WrittenNumber :=
  let cs := withoutScheme cs
  let (code, cs) := match cs with
    | '+' :: cs => (some (cs.takeWhile Char.isDigit), cs.dropWhile Char.isDigit)
    | cs => (none, cs)
  let national := cs.takeWhile isAddressDigit
  let rest := cs.dropWhile isAddressDigit
  if national.isEmpty || rest.head?.any (· != ';') then none
  else match code.or (contextCode? (parameters rest.length rest)) with
    | some code => some (.coded code national)
    | none => some (.joined false (dialled national))

/-! ## Numbers in other texts -/

/-- An extension at the end, with at least so many digits behind its label: blanks or commas, a
label, perhaps a colon or point, and up to seven digits; or up to five digits between hyphens or
spaces and a hash sign. -/
def extension? (least : Nat) : Option Pattern :=
  let digits := "\\d\x7b" ++ toString least ++ ",7\x7d"
  Pattern.ofText? ("(?i)(?:;ext=" ++ digits ++
    "|[ \\xA0\\t,]*(?:e?xt(?:ensi(?:o\\x\x7b301\x7d?|\\xF3))?n?|ｅ?ｘｔｎ?|[;,xｘ#＃~～]|" ++
    "int|anexo|ｉｎｔ)[:.．]?[ \\xA0\\t,-]*" ++ digits ++ "#?|[- ]+\\d\x7b1,5\x7d#)$")

/-- Drops the longest extension at the end; its label may come without digits. -/
def dropExtension (cs : List Char) : List Char :=
  match extension? 0 with
  | none => cs
  | some p =>
    let starts := Route.origins (cs.length + 1) (p.onText cs) (1 <<< cs.length)
    match (List.range cs.length).find? starts.testBit with
    | some i => cs.take i
    | none => cs

/-- Letters and numbers of every script. -/
def lettersAndNumbers : CharSet :=
  .unions (Text.decimalDigits :: ([.upperLetter, .lowerLetter, .titleLetter, .modifierLetter,
    .otherLetter, .letterNumber, .otherNumber] : List Text.Category).map Text.Category.set)

/-- The text in front of a second number: a stroke, blanks and an `x`. -/
def firstNumber : List Char → List Char
  | [] => []
  | c :: cs =>
    if (c = '/' ∨ c = '\\') ∧ (cs.dropWhile (· == ' ')).head? = some 'x' then []
    else c :: firstNumber cs

/-- The part of the text from the first plus sign or digit on, without marks at its end. -/
def candidate (cs : List Char) : List Char :=
  let cs := cs.dropWhile fun c => !(isPlus c || Text.isDecimalDigit c)
  firstNumber
    (cs.reverse.dropWhile fun c => !(lettersAndNumbers.holds c || c == '#')).reverse

/-- Whether the text has the shape of a number: two digits, or at least three digits with marks
between them before any letter, and perhaps an extension. -/
def isViable (cs : List Char) : Bool :=
  let body := cs.dropWhile isPlus
  let lead := body.takeWhile fun c => c.isDigit || isPunctuation c
  let rest := body.dropWhile fun c => c.isDigit || isPunctuation c || c.isAlpha
  (cs.length == 2 && cs.all Char.isDigit) ||
    (3 ≤ (lead.filter Char.isDigit).length &&
      (rest.isEmpty || (extension? 1).any (·.isWholeMatch rest)))

/-- Reads a number that is no telephone address. -/
def WrittenNumber.ofText? (cs : List Char) : Option WrittenNumber :=
  let cs := candidate cs
  if isViable cs then
    let cs := dropExtension cs
    some (.joined (cs.head?.any isPlus) (dialled cs))
  else none

/-! ## Calling codes -/

/-- Splits a calling code of up to three digits off. -/
def splitCode? (ds : List Char) : Except PhoneError (Nat × List Char) :=
  let fits (n : Nat) : Bool :=
    n ≤ ds.length && ds.head? != some '0' && isCallingCode (Text.digitsValue (ds.take n))
  match [1, 2, 3].find? fits with
  | some n => .ok (Text.digitsValue (ds.take n), ds.drop n)
  | none => .error .invalidCountryCode

/-- The calling code that a text says. -/
def writtenCode? (cs : List Char) : Except PhoneError Nat :=
  let ds := dialled cs
  let code := Text.digitsValue ds
  if ds.isEmpty then .error .emptyCode
  else if 65535 < code then .error .codeOverflow
  else if isCallingCode code then .ok code
  else .error .invalidCountryCode

/-- Drops the home trunk digit. -/
def dropTrunk : List Char → List Char
  | '1' :: ds => ds
  | ds => ds

/-- What follows the international call digits. -/
def behindCallDigits? : List Char → Option (List Char)
  | '0' :: '1' :: '1' :: c :: ds => if c = '0' then none else some (c :: ds)
  | _ => none

/-- Calling code and national digits. -/
def WrittenNumber.split? : WrittenNumber → Except PhoneError (Nat × List Char)
  | .coded code national => (writtenCode? code).map fun n => (n, dialled national)
  | .joined hasPlus ds =>
    match behindCallDigits? ds with
    | some ds => splitCode? ds
    | none => if hasPlus then splitCode? ds else .ok (1, dropTrunk (dropTrunk ds))

/-! ## Numbers -/

/-- The greatest value of the digits of a national number: seven bytes hold it. -/
def greatestNational : Nat := Nat.pow 2 56 - 1

/-- Reads a telephone number. -/
def PhoneNumber.parse? (s : String) : Except PhoneError PhoneNumber := do
  let cs := s.toList
  let some written := (WrittenNumber.ofAddress? cs).or (WrittenNumber.ofText? cs)
    | throw .noNumber
  let (code, ds) ← written.split?
  let national := dropTrunk (dropTrunk ds)
  if national.length < 2 then throw .tooShort
  if 17 < national.length ∨ greatestNational < Text.digitsValue national then throw .tooLong
  return ⟨code, national⟩

/-- Whether the number exists in its plan. -/
def PhoneNumber.isValid (n : PhoneNumber) : Bool := isValidNational n.code n.national

/-- International text without separators. -/
def PhoneNumber.e164 (n : PhoneNumber) : String :=
  "+" ++ toString n.code ++ String.ofList n.national

end PingPost.Phone
