import PingPost.Json.Codec

/-!
Aliases: under which names a buyer wants to see the evidence of consent. One fact may be written
under several names.
-/

namespace PingPost

/-- Names for the parts of a place. -/
structure GeoAliases where
  latitude : List String
  longitude : List String
  city : List String
  state : List String
  deriving DecidableEq, Repr

/-- Names for the evidence of consent. -/
structure Aliases where
  certUrl : List String
  certId : List String
  jornayaId : List String
  consent : List String
  consentText : List String
  ipAddress : List String
  userAgent : List String
  timestamp : List String
  geo : GeoAliases
  /-- Names for the facts of the attribution, by the name of the fact. -/
  attribution : Table String (List String)
  deriving DecidableEq, Repr

namespace GeoAliases

/-- The plain names. -/
def standard : GeoAliases := ⟨["latitude"], ["longitude"], ["city"], ["state"]⟩

/-- The fields of the names. -/
def record : Record GeoAliases :=
  (Record.and (.withDefault "latitude" (.list .text) standard.latitude) <|
    .and (.withDefault "longitude" (.list .text) standard.longitude) <|
    .and (.withDefault "city" (.list .text) standard.city) <|
    .one (.withDefault "state" (.list .text) standard.state)).via
    (fun (latitude, longitude, city, state) => ⟨latitude, longitude, city, state⟩)
    (fun g => (g.latitude, g.longitude, g.city, g.state))

/-- Names as documents. -/
def codec : Codec GeoAliases := record.codec

end GeoAliases

namespace Aliases

/-- The names in use where a buyer asks for no others. -/
def standard : Aliases where
  certUrl := ["xxTrustedFormCertUrl", "trusted_form_cert_url"]
  certId := ["trusted_form_cert_id"]
  jornayaId := ["universal_leadid", "jornaya_lead_id"]
  consent := ["tcpa_consent"]
  consentText := ["tcpa_consent_text"]
  ipAddress := ["ip_address"]
  userAgent := ["user_agent"]
  timestamp := ["consent_timestamp"]
  geo := .standard
  attribution := Table.ofList [
    ("utmSource", ["utm_source"]), ("utmMedium", ["utm_medium"]),
    ("utmCampaign", ["utm_campaign"]), ("utmTerm", ["utm_term"]),
    ("utmContent", ["utm_content"]), ("gclid", ["gclid"]), ("fbclid", ["fbclid"]),
    ("landingPage", ["landing_page"]), ("referrer", ["referrer"])]

/-- The fields of the names. -/
def record : Record Aliases :=
  (Record.and (.withDefault "trustedFormUrlFields" (.list .text) standard.certUrl) <|
    .and (.withDefault "trustedFormIdFields" (.list .text) standard.certId) <|
    .and (.withDefault "jornayaFields" (.list .text) standard.jornayaId) <|
    .and (.withDefault "tcpaConsentFields" (.list .text) standard.consent) <|
    .and (.withDefault "tcpaTextFields" (.list .text) standard.consentText) <|
    .and (.withDefault "ipAddressFields" (.list .text) standard.ipAddress) <|
    .and (.withDefault "userAgentFields" (.list .text) standard.userAgent) <|
    .and (.withDefault "timestampFields" (.list .text) standard.timestamp) <|
    .and (.withDefault "geoFields" GeoAliases.codec standard.geo) <|
    .one (.withDefault "attributionFields" (.textTable (.list .text)) standard.attribution)).via
    (fun (certUrl, certId, jornayaId, consent, consentText, ip, agent, time, geo, attribution) =>
      ⟨certUrl, certId, jornayaId, consent, consentText, ip, agent, time, geo, attribution⟩)
    (fun a => (a.certUrl, a.certId, a.jornayaId, a.consent, a.consentText, a.ipAddress,
      a.userAgent, a.timestamp, a.geo, a.attribution))

/-- Names as documents. -/
def codec : Codec Aliases := record.codec

end Aliases

end PingPost
