import PingPost.Validation.Complaint
import PingPost.Net.Email
import PingPost.Net.Url
import PingPost.Pattern.Match
import PingPost.Pattern.OfText

/-!
Checking a value against a rule. `Rule.violations` lists the constraints that the value breaks, in
the order of the rule's fields; the first one is reported.
-/

namespace PingPost

/-- Whether a text is a zip code: five digits, or five and four with a hyphen between. -/
def isZipCode (s : String) : Bool :=
  match s.toList.span Text.isDecimalDigit with
  | (ds, []) => ds.length == 5
  | (ds, c :: rest) =>
    ds.length == 5 && c == '-' && rest.length == 4 && rest.all Text.isDecimalDigit

/-- Whether the digits of a text are a home telephone number: ten digits, or eleven with a one in
front, whose area starts above one. -/
def isHomePhone (s : String) : Bool :=
  let area (c : Char) : Bool := c != '0' && c != '1'
  match Text.asciiDigits s with
  | ds@(a :: b :: _) =>
    (ds.length == 10 && area a) || (ds.length == 11 && a == '1' && area b)
  | _ => false

/-- Whether a text is the address of a web page. -/
def isWebUrl (s : String) : Bool :=
  match Net.Url.parse? s with
  | .ok url => url.scheme == "http" || url.scheme == "https"
  | .error _ => false

/-- Words that stand for truth values. -/
def truthWords : List String := ["true", "false", "yes", "no", "1", "0"]

/-- Whether a value is of a kind. -/
def ValueKind.holds (kind : ValueKind) (v : Json) : Bool :=
  let word := Text.trim v.asText
  match kind with
  | .email => Net.Email.isValid word
  | .phone => isHomePhone v.asText
  | .zipCode => isZipCode word
  | .url => isWebUrl word
  | .number => v.asNumber?.isSome
  | .boolean =>
    match v with
    | .bool _ => true
    | _ => truthWords.contains (Text.lower word)
  | .text =>
    match v with
    | .text _ => true
    | _ => false

namespace Rule

/-- The constraint on the kind. -/
def kindViolation? (r : Rule) (v : Json) : Option Violation :=
  r.kind.bind fun kind => if kind.holds v then none else some (.notKind v.asText kind)

/-- The constraint on the least number of characters. -/
def minLengthViolation? (r : Rule) (v : Json) : Option Violation :=
  r.minLength.bind fun least =>
    if v.asText.length < least then some (.tooShort v.asText.length least) else none

/-- The constraint on the greatest number of characters. -/
def maxLengthViolation? (r : Rule) (v : Json) : Option Violation :=
  r.maxLength.bind fun most =>
    if most < v.asText.length then some (.tooLong v.asText.length most) else none

/-- The constraint on the least number. -/
def minViolation? (r : Rule) (v : Json) : Option Violation :=
  r.min.bind fun least =>
    match v.asNumber? with
    | none => some (.notNumeric v.asText)
    | some x => if x < least.val then some (.tooSmall x least.val) else none

/-- The constraint on the greatest number. -/
def maxViolation? (r : Rule) (v : Json) : Option Violation :=
  r.max.bind fun most =>
    match v.asNumber? with
    | none => some (.notNumeric v.asText)
    | some x => if most.val < x then some (.tooLarge x most.val) else none

/-- The constraint on the form of the text. -/
def patternViolation? (r : Rule) (v : Json) : Option Violation :=
  r.pattern.bind fun text =>
    match Pattern.ofText? text with
    | none => some .badPattern
    | some p => if p.isMatch v.asText then none else some (.noMatch v.asText text)

/-- Whether a value is one of the allowed ones, as it is or by its text. -/
def isAllowed (v candidate : Json) : Bool :=
  candidate == v || Text.sameIgnoringAsciiCase candidate.asText (Text.trim v.asText)

/-- The constraint to some values. -/
def allowedViolation? (r : Rule) (v : Json) : Option Violation :=
  r.allowed.bind fun candidates =>
    if candidates.any (isAllowed v) then none else some (.notAllowed v.asText)

/-- The broken constraints, in order. -/
def violations (r : Rule) (v : Json) : List Violation :=
  [r.kindViolation? v, r.minLengthViolation? v, r.maxLengthViolation? v, r.minViolation? v,
    r.maxViolation? v, r.patternViolation? v, r.allowedViolation? v].filterMap id

/-- Checks a value of a field; the first broken constraint is reported. -/
def check (r : Rule) (field : String) (v : Json) : Except FieldError Unit :=
  match r.violations v with
  | [] => .ok ()
  | violation :: _ => .error ⟨field, .breaks violation⟩

end Rule

end PingPost
