import PingPost.Lead.Basic

/-!
The facts of a lead: one flat object that templates and price conditions read.

The answers of the form come first, under their own names and once more under `formData`. What the
exchange itself knows is written over them, so an answer never passes for it.
-/

namespace PingPost

/-- The facts of the attribution that are known. -/
def Attribution.facts (a : Attribution) : List (String × Option Json) :=
  a.entries.map fun (key, value) => (key, value.map .text)

/-- The facts of a place. -/
def Geo.facts (g : Geo) : List (String × Option Json) := [
  ("geoLatitude", g.latitude.map .real), ("geoLongitude", g.longitude.map .real),
  ("geoCity", g.city.map .text), ("geoState", g.state.map .text)]

/-- The facts of the evidence. -/
def Compliance.facts (c : Compliance) : List (String × Option Json) := [
  ("trustedFormCertUrl", c.certUrl.map .text), ("trustedFormCertId", c.certId.map .text),
  ("jornayaLeadId", c.jornayaId.map .text), ("tcpaConsent", some (.bool c.consent)),
  ("tcpaConsentText", c.consentText.map .text), ("ipAddress", c.ipAddress.map .text),
  ("userAgent", c.userAgent.map .text),
  ("complianceTimestamp", c.timestamp.map fun t => .text t.toRfc3339)] ++
  ((c.geo.map Geo.facts).getD []) ++ c.attribution.facts

namespace Lead

/-- Whether there is any evidence of consent. -/
def hasEvidence (l : Lead) : Bool :=
  l.compliance.any fun c => c.hasTrustedForm || c.hasJornaya || c.consent

/-- What the exchange knows of every lead. -/
def coreFacts (l : Lead) (now : Instant) : List (String × Option Json) := [
  ("leadId", some (.text l.id)), ("serviceTypeId", some (.text l.serviceType)),
  ("zipCode", some (.text l.zipCode)), ("ownsHome", some (.bool l.ownsHome)),
  ("timeframe", some (.text l.timeframe)), ("status", l.status.map .text),
  ("createdAt", some (.text l.createdAt.toRfc3339)),
  ("leadAgeMinutes", some (.int (max 0 (now.minutesSince l.createdAt)))),
  ("hasCompliance", some (.bool l.hasEvidence))]

/-- Puts the facts that have a value over the fields of an object. -/
def putFacts (fields : Fields) (facts : List (String × Option Json)) : Fields :=
  fields.putAll (facts.filterMap fun (key, value) => value.map (key, ·))

/-- The facts of a lead at a time. -/
def facts (l : Lead) (now : Instant) : Fields :=
  let answers := l.answers.put "formData" (.object l.answers)
  let withEvidence := putFacts answers ((l.compliance.map Compliance.facts).getD [])
  putFacts withEvidence (l.coreFacts now)

end Lead

end PingPost
