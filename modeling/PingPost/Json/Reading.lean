import PingPost.Json.Printer
import PingPost.Text.Case

/-! A JSON value read as a text, as a number, as a truth value, and as something missing. -/

namespace PingPost.Json

/-- A value as text: a string is its own text, `null` is empty, all else is written as JSON. -/
def asText : Json → String
  | .text s => s
  | .null => ""
  | v => v.render

/-- A value as a number. A string may carry dollar signs, commas and spaces around a numeral. -/
def asNumber? : Json → Option Float
  | .int n => some (Float64.ofInt n)
  | .real x => some x.val
  | .text s =>
    Float64.ofNumeral?
      ((Text.trimChars s.toList).filter fun c => !(c == '$' || c == ',' || c == ' '))
  | _ => none

/-- Whether there is nothing in the value: `null`, a blank string, an empty list or object. -/
def isMissing : Json → Bool
  | .null => true
  | .text s => Text.isBlankText s
  | .list items => items.isEmpty
  | .object fields => fields.isEmpty
  | _ => false

/-- Words for yes. -/
def trueWords : List String := ["true", "yes", "y", "1", "on"]

/-- Words for no; a blank text is one of them. -/
def falseWords : List String := ["false", "no", "n", "0", "off", ""]

/-- A value as a truth value, or why it is none. -/
def asBool : Json → Except String Bool
  | .bool b => .ok b
  | .int n => .ok (n != 0)
  | .real x => .ok (x.val != 0)
  | .null => .ok false
  | .text s =>
    let word := Text.lower (Text.trim s)
    if trueWords.contains word then .ok true
    else if falseWords.contains word then .ok false
    else .error s!"'{word}' is not a boolean"
  | _ => .error "expected a boolean"

/-- Equality of values, or of their trimmed texts up to the case of ASCII letters. -/
def looselyEqual (a b : Json) : Bool :=
  a == b || Text.sameIgnoringAsciiCase (Text.trim a.asText) (Text.trim b.asText)

end PingPost.Json
