import PingPost.Lead.Basic
import PingPost.Template.Aliases

/-!
The evidence of consent in a payload: every fact goes under all names the buyer has for it, but
never over a field that is already there.
-/

namespace PingPost

/-- A buyer's names, or the usual ones where the buyer has none. -/
def Aliases.orUsual (own usual : List String) : List String := if own.isEmpty then usual else own

/-- Names and values of the parts of a place. -/
def Geo.claims (g : Geo) (own usual : GeoAliases) : List (List String × Option Json) := [
  (Aliases.orUsual own.latitude usual.latitude, g.latitude.map .real),
  (Aliases.orUsual own.longitude usual.longitude, g.longitude.map .real),
  (Aliases.orUsual own.city usual.city, g.city.map .text),
  (Aliases.orUsual own.state usual.state, g.state.map .text)]

/-- Names and values of the facts of an attribution, in the order of the names of the facts. -/
def Attribution.claims (a : Attribution) (names : Table String (List String)) :
    List (List String × Option Json) :=
  names.map fun (key, targets) =>
    (targets, ((Table.get? key a.entries).bind id).map .text)

namespace Compliance

/-- Names and values of the evidence, in the order in which they are written. -/
def claims (c : Compliance) (own : Aliases) : List (List String × Option Json) :=
  let usual := Aliases.standard
  [(Aliases.orUsual own.certUrl usual.certUrl, c.certUrl.map .text),
    (Aliases.orUsual own.certId usual.certId, c.certId.map .text),
    (Aliases.orUsual own.jornayaId usual.jornayaId, c.jornayaId.map .text),
    (Aliases.orUsual own.consent usual.consent, some (.bool c.consent)),
    (Aliases.orUsual own.consentText usual.consentText, c.consentText.map .text),
    (Aliases.orUsual own.ipAddress usual.ipAddress, c.ipAddress.map .text),
    (Aliases.orUsual own.userAgent usual.userAgent, c.userAgent.map .text),
    (Aliases.orUsual own.timestamp usual.timestamp, c.timestamp.map fun t => .text t.toRfc3339)] ++
    ((c.geo.map fun g => g.claims own.geo usual.geo).getD []) ++
    c.attribution.claims (if own.attribution.isEmpty then usual.attribution else own.attribution)

/-- Writes a value under the names that are free. -/
def putClaim (payload : Fields) (claim : List String × Option Json) : Fields :=
  match claim.2 with
  | none => payload
  | some v => claim.1.foldl (fun payload name => payload.putNew name v) payload

/-- Adds the evidence to a payload. -/
def addTo (c : Compliance) (own : Aliases) (payload : Fields) : Fields :=
  (c.claims own).foldl putClaim payload

end Compliance

end PingPost
