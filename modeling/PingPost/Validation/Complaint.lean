import PingPost.Template.Basic

/-! What can be wrong with a value, a lead, a buyer, a template or a payload, and its wording. -/

namespace PingPost

/-- A constraint of a rule that a value breaks. -/
inductive Violation where
  | notKind (text : String) (kind : ValueKind)
  | tooShort (length least : Nat)
  | tooLong (length most : Nat)
  | notNumeric (text : String)
  | tooSmall (number least : Float)
  | tooLarge (number most : Float)
  /-- The pattern cannot be read. What its reader says about the fault is left out of the
  wording. -/
  | badPattern
  | noMatch (text pattern : String)
  | notAllowed (text : String)
  deriving DecidableEq

/-- What is wrong with a piece of input. -/
inductive Complaint where
  | leadIdMissing
  | serviceTypeMissing
  | badZipCode (text : String)
  | buyerIdMissing
  | buyerNameMissing
  | sourceMissing (target : String)
  | targetMissing (source : String)
  | targetTwice (target : String)
  /-- The pattern of a rule cannot be read. What its reader says about the fault is left out of the
  wording. -/
  | badRulePattern
  | requiredMissing (target : String)
  | requiredNotInPayload
  | payloadTooLarge (size limit : Nat)
  | breaks (violation : Violation)
  /-- In words of its own. -/
  | other (text : String)
  deriving DecidableEq

/-- A complaint about a field. -/
structure FieldError where
  field : String
  complaint : Complaint
  deriving DecidableEq

/-- A kind as complaints name it. -/
def ValueKind.word : ValueKind → String
  | .email => "email"
  | .phone => "phone"
  | .zipCode => "zipcode"
  | .url => "url"
  | .number => "number"
  | .boolean => "boolean"
  | .text => "string"

/-- Wording of a broken constraint. -/
def Violation.message : Violation → String
  | .notKind text kind => s!"'{text}' is not a valid {kind.word}"
  | .tooShort length least => s!"length {length} is below minimum {least}"
  | .tooLong length most => s!"length {length} exceeds maximum {most}"
  | .notNumeric text => s!"'{text}' is not numeric"
  | .tooSmall number least =>
    Float64.plainText number ++ " is below minimum " ++ Float64.plainText least
  | .tooLarge number most =>
    Float64.plainText number ++ " exceeds maximum " ++ Float64.plainText most
  | .badPattern => "invalid pattern"
  | .noMatch text pattern => s!"'{text}' does not match pattern {pattern}"
  | .notAllowed text => s!"'{text}' is not an allowed value"

/-- Wording of a complaint. -/
def Complaint.message : Complaint → String
  | .leadIdMissing => "lead id is required"
  | .serviceTypeMissing => "service type is required"
  | .badZipCode text => s!"'{text}' is not a valid US zip code"
  | .buyerIdMissing => "buyer id is required"
  | .buyerNameMissing => "buyer name is required"
  | .sourceMissing target => s!"sourceField is empty (targetField '{target}')"
  | .targetMissing source => s!"targetField is empty (sourceField '{source}')"
  | .targetTwice target => s!"duplicate targetField '{target}'"
  | .badRulePattern => "invalid validation pattern"
  | .requiredMissing target => s!"required field is missing (target '{target}')"
  | .requiredNotInPayload => "required field missing from output payload"
  | .payloadTooLarge size limit => s!"serialized size {size} bytes exceeds limit {limit}"
  | .breaks violation => violation.message
  | .other text => text

/-- Wording of a complaint about a field. -/
def FieldError.message (e : FieldError) : String := s!"{e.field}: {e.complaint.message}"

/-- A complaint as a document. -/
def FieldError.toJson (e : FieldError) : Json :=
  .object [("field", .text e.field), ("message", .text e.complaint.message)]

end PingPost
