import PingPost.Validation.Complaint

/-! Why a lead could not be made into a payload, and the wording. -/

namespace PingPost

/-- Why a mapping failed. -/
inductive MappingFault where
  | invalid (error : FieldError)
  | transform (error : TransformError)
  deriving DecidableEq

/-- A mapping that failed. -/
structure MappingFailure where
  source : String
  target : String
  fault : MappingFault
  deriving DecidableEq

/-- Why there is no payload. -/
inductive TemplateError where
  | invalid (error : FieldError)
  | mappings (failures : List MappingFailure)
  | configuration (text : String)
  | hook (text : String)
  /-- A transform broke off. This error is never reported: what asked for the payload ends without a
  result. -/
  | brokenOff
  deriving DecidableEq

namespace MappingFailure

/-- Wording of a failure. -/
def message (f : MappingFailure) : String :=
  match f.fault with
  | .invalid e => s!"validation failed for {f.source} -> {f.target}: {e.message}"
  | .transform e => s!"transformation failed for {f.source} -> {f.target}: {e.message}"

/-- The complaint about the value, if that is the fault. -/
def complaint? (f : MappingFailure) : Option FieldError :=
  match f.fault with
  | .invalid e => some e
  | .transform _ => none

/-- Whether the transform broke off. -/
def isBreak (f : MappingFailure) : Bool := f.fault = .transform .broken

end MappingFailure

/-- A transform's error as a document. -/
def TransformError.toJson : TransformError → Json
  | .unknown name => .object [("kind", .text "unknownTransform"), ("name", .text name)]
  | .invalid name message => .object [
    ("kind", .text "invalidInput"), ("message", .text message), ("transform", .text name)]
  | .broken => .null

/-- A failure as a document. -/
def MappingFailure.toJson (f : MappingFailure) : Json :=
  let (kind, error) := match f.fault with
    | .invalid e => ("validation", e.toJson)
    | .transform e => ("transformation", e.toJson)
  .object [("error", error), ("kind", .text kind), ("source_field", .text f.source),
    ("target_field", .text f.target)]

namespace TemplateError

/-- Wording of an error. -/
def message : TemplateError → String
  | .invalid e => s!"validation error: {e.message}"
  | .mappings fs =>
    s!"{fs.length} mapping(s) failed: " ++ "; ".intercalate (fs.map MappingFailure.message)
  | .configuration text => s!"template configuration error: {text}"
  | .hook text => s!"transform hook failed: {text}"
  | .brokenOff => TransformError.lastWords

/-- All complaints in an error. -/
def complaints : TemplateError → List FieldError
  | .invalid e => [e]
  | .mappings fs => fs.filterMap MappingFailure.complaint?
  | _ => []

/-- The mappings that failed. -/
def failures : TemplateError → List MappingFailure
  | .mappings fs => fs
  | _ => []

/-- The parts of an error as documents. -/
def details : TemplateError → List Json
  | .invalid e => [e.toJson]
  | .mappings fs => fs.map MappingFailure.toJson
  | e => [.text e.message]

end TemplateError

end PingPost
