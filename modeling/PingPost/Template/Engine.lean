import PingPost.Lead.Facts
import PingPost.Template.Error
import PingPost.Template.Evidence
import PingPost.Validation.Form
import PingPost.Validation.Sanitize
import PingPost.Json.Path

/-!
From a lead to a payload.

The lead, the buyer and the template are checked; the mappings read the facts of the lead, each on
its own, and all their failures are reported together, unless a transform breaks off; the evidence
of consent and the constants of the template follow. A buyer's hook may change the facts before and
the payload after. What is sent is sanitised and then checked.
-/

namespace PingPost

/-- A buyer's own changes to the facts and to the payload. -/
structure Hook where
  before : Fields → Except String Fields
  after : Fields → Except String Fields

/-- What turns leads into payloads. -/
structure Engine where
  catalogue : Catalogue
  /-- Size limit of payloads whose templates state none. -/
  limit : Nat
  hooks : Table String Hook

namespace Mapping

/-- The value a mapping starts from: the fact if there is one, else the fallback. -/
def resolve? (m : Mapping) (facts : Json) : Option Json :=
  ((facts.lookup? m.source).filter fun v => !v.isNull).or m.fallback

/-- The word that stands for a value. Lists and objects are never replaced. -/
def substitute (m : Mapping) (v : Json) : Json :=
  match m.words, v with
  | none, _ | _, .list _ | _, .object _ => v
  | some words, v =>
    match words.get? (Text.trim v.asText) with
    | some word => .text word
    | none => v

/-- The value a mapping writes; an optional mapping without a value writes nothing. -/
def value (m : Mapping) (c : Catalogue) (facts : Json) : Except MappingFault (Option Json) :=
  match m.resolve? facts with
  | none =>
    if m.required then .error (.invalid ⟨m.source, .requiredMissing m.target⟩) else .ok none
  | some v => do
    if v.isMissing then
      if m.required then throw (.invalid ⟨m.source, .requiredMissing m.target⟩)
    else if let some rule := m.rule then
      (rule.check m.source v).mapError .invalid
    let v := m.substitute v
    match m.transform with
    | none => return some v
    | some spec =>
      let w ← (c.apply spec v).mapError .transform
      return some w

/-- What a mapping writes where, or how it failed. -/
def apply (m : Mapping) (c : Catalogue) (facts : Json) :
    Except MappingFailure (Option (String × Json)) :=
  match m.value c facts with
  | .error fault => .error ⟨m.source, m.target, fault⟩
  | .ok v => .ok (v.map (m.target, ·))

end Mapping

namespace Template

/-- The failures of the mappings, in order. -/
def failures (t : Template) (c : Catalogue) (facts : Json) : List MappingFailure :=
  t.mappings.filterMap fun m =>
    match m.apply c facts with
    | .error f => some f
    | .ok _ => none

/-- What the mappings write, in order. -/
def writes (t : Template) (c : Catalogue) (facts : Json) : List (String × Json) :=
  t.mappings.filterMap fun m =>
    match m.apply c facts with
    | .error _ => none
    | .ok w => w

/-- Whether the transform of a mapping breaks off. -/
def breaksOff (t : Template) (c : Catalogue) (facts : Json) : Bool :=
  (t.failures c facts).any MappingFailure.isBreak

/-- The payload of the mappings, or all their failures. -/
def mapped (t : Template) (c : Catalogue) (facts : Json) : Except TemplateError Fields :=
  if t.breaksOff c facts then .error .brokenOff
  else match t.failures c facts with
    | [] => .ok ((t.writes c facts).foldl (fun payload w => Json.insert payload w.1 w.2) [])
    | fs => .error (.mappings fs)

end Template

namespace Engine

/-- An engine with the built-in transforms and no hooks. -/
def standard : Engine := ⟨.standard, Payload.standardLimit, []⟩

/-- Unfolding the engine first keeps the catalogue folded. -/
theorem standard_catalogue : standard.catalogue = .standard := by
  rw [standard]

/-- Runs the first side of a buyer's hook. -/
def before (e : Engine) (buyerId : String) (facts : Fields) : Except TemplateError Fields :=
  match e.hooks.get? buyerId with
  | none => .ok facts
  | some hook => (hook.before facts).mapError .hook

/-- Runs the second side of a buyer's hook. -/
def after (e : Engine) (buyerId : String) (payload : Fields) : Except TemplateError Fields :=
  match e.hooks.get? buyerId with
  | none => .ok payload
  | some hook => (hook.after payload).mapError .hook

/-- The payload before it is sanitised: mappings, evidence if wanted, constants, and the hook. -/
def assemble (e : Engine) (lead : Lead) (buyer : Buyer) (t : Template) (withEvidence : Bool)
    (facts : Fields) : Except TemplateError Fields := do
  let mapped ← t.mapped e.catalogue (.object facts)
  let evident := match lead.compliance with
    | some c => if withEvidence then c.addTo buyer.aliases mapped else mapped
    | none => mapped
  e.after buyer.id (evident.putAll t.constants)

/-- Sanitises a payload and checks it against its template. -/
def finish (e : Engine) (t : Template) (payload : Fields) : Except TemplateError Fields := do
  let clean := Sanitize.valueFields payload
  (Payload.check clean t.requiredTargets (t.maxPayloadBytes.getD e.limit)).mapError .invalid
  return clean

/-- The payload of a lead for a buyer by a template. -/
def payload (e : Engine) (lead : Lead) (buyer : Buyer) (t : Template) (withEvidence : Bool)
    (now : Instant) : Except TemplateError Fields := do
  lead.check.mapError .invalid
  buyer.check.mapError .invalid
  t.check.mapError .invalid
  let facts ← e.before buyer.id (lead.facts now)
  let raw ← e.assemble lead buyer t withEvidence facts
  e.finish t raw

/-- The payload of a PING: evidence only if the buyer wants it there. -/
def pingPayload (e : Engine) (lead : Lead) (buyer : Buyer) (service : Service) (now : Instant) :
    Except TemplateError Fields :=
  e.payload lead buyer service.pingTemplate buyer.settings.complianceInPing now

/-- The payload of a POST: always with evidence. -/
def postPayload (e : Engine) (lead : Lead) (buyer : Buyer) (service : Service) (now : Instant) :
    Except TemplateError Fields :=
  e.payload lead buyer service.postTemplate true now

end Engine

end PingPost
