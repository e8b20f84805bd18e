import PingPost.Phone.PlanTable
import PingPost.Pattern.OfText
import PingPost.Pattern.Match
import PingPost.Text.Blank

/-!
Numbering plans at work: which calling codes exist, and which national numbers exist under a calling
code.
-/

namespace PingPost.Phone

/-- The forms of the national numbers of a calling code; a code that is not in use has none. -/
def formsOf (code : Nat) : List String :=
  match plans.find? (·.1 == code) with
  | some (_, forms) => forms
  | none => []

/-- Whether a calling code is in use. -/
def isCallingCode (code : Nat) : Bool := plans.any (·.1 == code)

/-- Whether digits have a written form. -/
def hasForm (digits : List Char) (form : String) : Bool :=
  match Pattern.ofText? (String.ofList (form.toList.filter fun c => !Text.isBlank c)) with
  | some p => p.isWholeMatch digits
  | none => false

/-- Whether a national number exists under a calling code. -/
def isValidNational (code : Nat) (digits : List Char) : Bool :=
  (formsOf code).any (hasForm digits)

end PingPost.Phone
