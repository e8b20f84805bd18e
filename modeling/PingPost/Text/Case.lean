import PingPost.Text.CaseTable
import PingPost.Text.Class
import PingPost.Text.Blank

/-!
Upper and lower case of texts by the full mappings, in which one character may become several.
A capital sigma at the end of a word becomes the final small sigma; nothing else depends on the
context.
-/

namespace PingPost.Text

/-- Where the runs send a character. -/
def CaseRuns.apply (runs : CaseRuns) (c : Char) : Char :=
  let n := c.toNat
  match runs.find? fun (first, last, step, _) =>
      first ≤ n && n ≤ last && (n - first) % step == 0 with
  | some (_, _, _, shift) => Char.ofNat ((n : Int) + shift).toNat
  | none => c

/-- Lower case of one character by its single-character mapping. -/
def lowerOne (c : Char) : Char :=
  if c.toNat < 128 then asciiLower c else CaseRuns.apply lowerRuns c

/-- Upper case of one character by its single-character mapping. -/
def upperOne (c : Char) : Char :=
  if c.toNat < 128 then (if 'a' ≤ c ∧ c ≤ 'z' then Char.ofNat (c.toNat - 32) else c)
  else CaseRuns.apply upperRuns c

/-- Lower case of one character, outside any context. -/
def lowerChar (c : Char) : List Char :=
  match lowerSequences.find? (·.1 == c.toNat) with
  | some (_, image) => image.map Char.ofNat
  | none => [lowerOne c]

/-- Upper case of one character. -/
def upperChar (c : Char) : List Char :=
  if c.toNat < 128 then [upperOne c]
  else match upperSequences.find? (·.1 == c.toNat) with
    | some (_, image) => image.map Char.ofNat
    | none => [upperOne c]

/-- Whether the first character that is not ignored for case is a cased one. -/
def casedNext (cs : List Char) : Bool :=
  match cs.dropWhile isCaseIgnorable with
  | [] => false
  | c :: _ => isCased c

/-- Lower case of the rest of a text, of which `before` holds the earlier characters backwards. -/
def lowerFrom (before : List Char) : List Char → List Char
  | [] => []
  | c :: cs =>
    let image :=
      if c = 'Σ' then (if casedNext before && !casedNext cs then ['ς'] else ['σ'])
      else lowerChar c
    image ++ lowerFrom (c :: before) cs

/-- Lower case of a text. -/
def lowerChars (cs : List Char) : List Char := lowerFrom [] cs

/-- Lower case of a text. -/
def lower (s : String) : String := String.ofList (lowerChars s.toList)

/-- Upper case of a text. -/
def upper (s : String) : String := String.ofList (s.toList.flatMap upperChar)

/-- A word with its first character in upper case and the rest in lower case. -/
def titleWord : List Char → List Char
  | [] => []
  | c :: cs => upperChar c ++ lowerChars cs

/-- The words of a text in title case, one space between them. -/
def title (s : String) : String :=
  " ".intercalate ((runsBetween isBlank s.toList).map fun w => String.ofList (titleWord w))

end PingPost.Text
