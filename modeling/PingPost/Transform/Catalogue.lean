import PingPost.Transform.Text
import PingPost.Transform.Number
import PingPost.Transform.Truth
import PingPost.Transform.Date
import PingPost.Transform.Contact
import PingPost.Transform.Service
import PingPost.Transform.Condition

/-!
The catalogue of transforms by name. An unknown name is an error, never a silent pass.
-/

namespace PingPost

/-- A reference to a transform by its name, with arguments. -/
inductive TransformSpec where
  | named (name : String)
  | withArgs (name : String) (args : List Json)

namespace TransformSpec

/-- The name. -/
def name : TransformSpec → String
  | .named n => n
  | .withArgs n _ => n

/-- The arguments; a bare name has none. -/
def args : TransformSpec → List Json
  | .named _ => []
  | .withArgs _ as => as

end TransformSpec

/-- Why a transform gave no value. -/
inductive TransformError where
  | unknown (name : String)
  | invalid (name message : String)
  | broken
  deriving DecidableEq, Repr

namespace TransformError

/-- The last words of a transform that breaks off. -/
def lastWords : String := "a Display implementation returned an error unexpectedly: Error"

/-- Wording of an error. -/
def message : TransformError → String
  | .unknown name => s!"unknown transform '{name}'"
  | .invalid name message => s!"transform '{name}' failed: {message}"
  | .broken => lastWords

/-- The error that a fault of the transform of a name is. -/
def ofFault (name : String) : TransformFault → TransformError
  | .refusal reason => .invalid name reason
  | .breakOff => .broken

end TransformError

/-- Transforms by name, in order of the names. -/
abbrev Catalogue := Table String Transform

namespace Catalogue

/-- The built-in transforms. -/
def standard : Catalogue := Table.ofList [
  ("string.uppercase", Transform.uppercase),
  ("string.lowercase", Transform.lowercase),
  ("string.trim", Transform.trim),
  ("string.titleCase", Transform.titleCase),
  ("string.truncate", Transform.truncate),
  ("string.digitsOnly", Transform.digitsOnly),
  ("string.alphanumeric", Transform.alphanumeric),
  ("number.integer", Transform.integer),
  ("number.round", Transform.round),
  ("number.currency", Transform.currency),
  ("number.toString", Transform.numberText),
  ("number.parse", Transform.parse),
  ("boolean.yesNo", Transform.yesNo),
  ("boolean.yn", Transform.yn),
  ("boolean.trueFalse", Transform.trueFalse),
  ("boolean.oneZero", Transform.oneZero),
  ("boolean.toBoolean", Transform.toBoolean),
  ("date.iso", Transform.dateIso),
  ("date.usDate", Transform.usDate),
  ("date.timestamp", Transform.timestamp),
  ("date.year", Transform.year),
  ("date.format", Transform.dateFormat),
  ("phone.digits", Transform.phoneDigits),
  ("phone.e164", Transform.phoneE164),
  ("phone.dashed", Transform.phoneDashed),
  ("phone.parens", Transform.phoneParens),
  ("email.normalize", Transform.emailNormalize),
  ("email.domain", Transform.emailDomain),
  ("address.zip5", Transform.zip5),
  ("address.stateCode", Transform.stateCode),
  ("service.windowsCount", Transform.windowsCount),
  ("service.timeframe", Transform.timeframe),
  ("service.homeownerStatus", Transform.homeownerStatus),
  ("service.roofingScope", Transform.roofingScope),
  ("compliance.tcpaFlag", Transform.tcpaFlag),
  ("compliance.certUrl", Transform.certUrl),
  ("compliance.ipAddress", Transform.ipAddress),
  ("conditional.ifEmpty", Transform.ifEmpty),
  ("conditional.equals", Transform.equals),
  ("conditional.coalesce", Transform.coalesce)]

/-- Applies the transform of a reference. -/
def apply (c : Catalogue) (spec : TransformSpec) (v : Json) : Except TransformError Json :=
  match Table.get? spec.name c with
  | none => .error (.unknown spec.name)
  | some f => (f v spec.args).mapError (.ofFault spec.name)

end Catalogue

end PingPost
