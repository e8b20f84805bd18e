import PingPost.Transform.Basic

/-! Transforms of texts: case, trimming, cutting, and keeping some of the characters. -/

namespace PingPost.Transform

/-- All letters in upper case. -/
def uppercase : Transform := fun v _ => .ok (.text (Text.upper v.asText))

/-- All letters in lower case. -/
def lowercase : Transform := fun v _ => .ok (.text (Text.lower v.asText))

/-- Without white space at the ends. -/
def trim : Transform := fun v _ => .ok (.text (Text.trim v.asText))

/-- Words in title case. -/
def titleCase : Transform := fun v _ => .ok (.text (Text.title v.asText))

/-- At most as many characters as the first argument says, 255 without one. -/
def truncate : Transform := fun v args => do
  let n ← countArgument args 0 255
  return .text (String.ofList (v.asText.toList.take n))

/-- ASCII digits only. -/
def digitsOnly : Transform := fun v _ => .ok (.text (String.ofList (Text.asciiDigits v.asText)))

/-- Letters, numbers and white space only. -/
def alphanumeric : Transform := fun v _ =>
  .ok (.text (String.ofList
    (v.asText.toList.filter fun c => Text.isAlphanumeric c || Text.isBlank c)))

end PingPost.Transform
