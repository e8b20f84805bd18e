import PingPost.Validation.Rule
import PingPost.Buyer.Basic
import PingPost.Lead.Basic

/-! Checks of whole leads, buyers, templates and payloads. -/

namespace PingPost

/-- A lead must name itself and its service, and have a zip code. -/
def Lead.check (l : Lead) : Except FieldError Unit :=
  if Text.isBlankText l.id then .error ⟨"id", .leadIdMissing⟩
  else if Text.isBlankText l.serviceType then .error ⟨"serviceTypeId", .serviceTypeMissing⟩
  else if !isZipCode (Text.trim l.zipCode) then .error ⟨"zipCode", .badZipCode l.zipCode⟩
  else .ok ()

/-- A buyer must have an id and a name. -/
def Buyer.check (b : Buyer) : Except FieldError Unit :=
  if Text.isBlankText b.id then .error ⟨"buyer.id", .buyerIdMissing⟩
  else if Text.isBlankText b.name then .error ⟨"buyer.name", .buyerNameMissing⟩
  else .ok ()

/-- A mapping at some place among others must have a source, a target that none of `taken` is,
and a pattern that can be read. -/
def Mapping.check (m : Mapping) (index : Nat) (taken : List String) : Except FieldError Unit :=
  let place := s!"mappings[{index}]"
  if Text.isBlankText m.source then .error ⟨place, .sourceMissing m.target⟩
  else if Text.isBlankText m.target then .error ⟨place, .targetMissing m.source⟩
  else if taken.contains m.target then .error ⟨place, .targetTwice m.target⟩
  else match m.rule.bind (·.pattern) with
    | none => .ok ()
    | some pattern =>
      if (Pattern.ofText? pattern).isSome then .ok () else .error ⟨m.target, .badRulePattern⟩

/-- Checks mappings that follow others with the targets `taken`. -/
def Template.checkFrom (index : Nat) (taken : List String) : List Mapping → Except FieldError Unit
  | [] => .ok ()
  | m :: rest => do
    m.check index taken
    checkFrom (index + 1) (m.target :: taken) rest

/-- The mappings of a template must be in order and write to different targets. -/
def Template.check (t : Template) : Except FieldError Unit := checkFrom 0 [] t.mappings

/-- Targets of the mappings that must give a value. -/
def Template.requiredTargets (t : Template) : List String :=
  (t.mappings.filter (·.required)).map (·.target)

namespace Payload

/-- Greatest size of a payload where nothing else is said. -/
def standardLimit : Nat := 65536

/-- Size of a payload in bytes. -/
def size (payload : Fields) : Nat := (Json.render (.object payload)).utf8ByteSize

/-- Whether there is something at a path of the payload. -/
def isFilled (payload : Fields) (path : String) : Bool :=
  ((Json.object payload).lookup? path).any fun v => !v.isMissing

/-- A payload must have something at every required path, and be small enough. -/
def check (payload : Fields) (required : List String) (limit : Nat) : Except FieldError Unit :=
  match required.find? fun path => !isFilled payload path with
  | some path => .error ⟨path, .requiredNotInPayload⟩
  | none =>
    if limit < size payload then .error ⟨"payload", .payloadTooLarge (size payload) limit⟩
    else .ok ()

end Payload

end PingPost
