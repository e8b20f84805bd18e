import PingPost.Json.Codec
import PingPost.Transform.Catalogue

/-!
Templates: how a lead becomes the payload a buyer wants. A mapping takes one fact of the lead,
checks it against a rule, substitutes words, applies a transform, and writes the result at a path
of the payload.
-/

namespace PingPost

/-- Kinds of values a rule may ask for. -/
inductive ValueKind where
  | email
  | phone
  | zipCode
  | url
  | number
  | boolean
  | text
  deriving DecidableEq, Repr

/-- Constraints on a value; those that are given must all hold. -/
structure Rule where
  kind : Option ValueKind
  minLength : Option Nat
  maxLength : Option Nat
  min : Option Finite
  max : Option Finite
  pattern : Option String
  allowed : Option (List Json)

/-- One fact on its way into the payload. -/
structure Mapping where
  source : String
  target : String
  transform : Option TransformSpec
  required : Bool
  fallback : Option Json
  rule : Option Rule
  /-- Words that stand for other words, before the transform. -/
  words : Option (Table String String)

/-- How a payload is made. -/
structure Template where
  mappings : List Mapping
  /-- Fields that every payload has. -/
  constants : Fields
  /-- Limit on the size of the payload, in place of the general one. -/
  maxPayloadBytes : Option Nat

namespace TransformSpec

/-- The fields of a reference with arguments. -/
def record : Record (String × List Json) :=
  .and (.required "name" .text) <| .one (.withDefault "args" (.list .value) [])

/-- References as documents: a bare name, or an object with a name and arguments. -/
def codec : Codec TransformSpec where
  encode
    | .named n => .text n
    | .withArgs n args => .object (record.toFields (n, args))
  decode?
    | .text n => some (.named n)
    | .object fields => (record.ofFields? fields).map fun (n, args) => .withArgs n args
    | _ => none

end TransformSpec

/-- Names of the kinds. -/
def ValueKind.codec : Codec ValueKind := .names [
  ("email", .email), ("phone", .phone), ("zipCode", .zipCode), ("url", .url), ("number", .number),
  ("boolean", .boolean), ("string", .text)]

namespace Rule

/-- A rule without constraints. -/
def empty : Rule := ⟨none, none, none, none, none, none, none⟩

/-- The fields of a rule. -/
def record : Record Rule :=
  (Record.and (.optional "type" ValueKind.codec) <|
    .and (.optional "minLength" (.word 64)) <|
    .and (.optional "maxLength" (.word 64)) <|
    .and (.optional "min" .number) <|
    .and (.optional "max" .number) <|
    .and (.optional "pattern" .text) <|
    .one (.optional "allowedValues" (.list .value))).via
    (fun (kind, shortest, longest, low, high, pattern, allowed) =>
      ⟨kind, shortest, longest, low, high, pattern, allowed⟩)
    (fun r => (r.kind, r.minLength, r.maxLength, r.min, r.max, r.pattern, r.allowed))

/-- Rules as documents. -/
def codec : Codec Rule := record.codec

end Rule

namespace Mapping

/-- The fields of a mapping. -/
def record : Record Mapping :=
  (Record.and (.required "sourceField" .text) <|
    .and (.required "targetField" .text) <|
    .and (.optional "transform" TransformSpec.codec) <|
    .and (.withDefault "required" .bool false) <|
    .and (.optional "defaultValue" .value) <|
    .and (.optional "validation" Rule.codec) <|
    .one (.optional "valueMap" (.textTable .text))).via
    (fun (source, target, transform, required, fallback, rule, words) =>
      ⟨source, target, transform, required, fallback, rule, words⟩)
    (fun m => (m.source, m.target, m.transform, m.required, m.fallback, m.rule, m.words))

/-- Mappings as documents. -/
def codec : Codec Mapping := record.codec

end Mapping

namespace Template

/-- The template of the empty payload. -/
def empty : Template := ⟨[], [], none⟩

/-- The fields of a template. -/
def record : Record Template :=
  (Record.and (.withDefault "mappings" (.list Mapping.codec) []) <|
    .and (.withDefault "additionalFields" .fields []) <|
    .one (.optional "maxPayloadBytes" (.word 64))).via
    (fun (mappings, constants, limit) => ⟨mappings, constants, limit⟩)
    (fun t => (t.mappings, t.constants, t.maxPayloadBytes))

/-- Templates as documents. -/
def codec : Codec Template := record.codec

end Template

end PingPost
