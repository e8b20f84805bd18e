import PingPost.Text.Blank

/-!
Mail addresses: a local part of plain characters, an at sign, and at least two labels with dots
between. A label has up to 63 letters, digits and inner hyphens.
-/

namespace PingPost.Net.Email

/-- Characters of the part before the at sign. -/
def isLocalChar (c : Char) : Bool :=
  c.isAlphanum || ".!#$%&'*+/=?^_`\x7b|\x7d~-".toList.contains c

/-- A label of the domain. -/
def isLabel (cs : List Char) : Bool :=
  cs.length ≤ 63 && cs.all (fun c => c.isAlphanum || c == '-') &&
    cs.head?.any Char.isAlphanum && cs.getLast?.any Char.isAlphanum

/-- The domain part. -/
def isDomain (cs : List Char) : Bool :=
  let labels := cs.splitOn '.'
  2 ≤ labels.length && labels.all isLabel

/-- Whether a text is a mail address of at least five bytes. -/
def isValid (s : String) : Bool :=
  match Text.splitFirst? '@' s.toList with
  | some (name, domain) =>
    5 ≤ s.utf8ByteSize && !name.isEmpty && name.all isLocalChar && isDomain domain
  | none => false

/-- The part behind the last at sign, when there is something before it and a dot in it. -/
def domain? (s : String) : Option String :=
  match Text.splitLast? '@' s.toList with
  | some (name, domain) =>
    if !name.isEmpty && domain.contains '.' then some (String.ofList domain) else none
  | none => none

end PingPost.Net.Email
