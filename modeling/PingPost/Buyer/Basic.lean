import PingPost.Buyer.Auth
import PingPost.Buyer.Settings
import PingPost.Price.Basic
import PingPost.Template.Aliases
import PingPost.Template.Basic
import PingPost.Vocabulary.Document

/-! Buyers: who they are, and what they buy under which conditions. -/

namespace PingPost

/-- What a buyer buys of one type of service. -/
structure Service where
  serviceType : String
  active : Bool
  /-- Of two equal bids the one of higher priority is preferred. -/
  priority : Nat
  pricing : Pricing
  pingTemplate : Template
  postTemplate : Template
  endpoints : Endpoints
  restrictions : Option Restrictions

/-- A buyer of leads. -/
structure Buyer where
  id : String
  name : String
  baseUrl : String
  active : Bool
  auth : Auth
  settings : Settings
  aliases : Aliases
  /-- The buyer's own vocabulary, to be laid over the common one. -/
  vocabulary : Option Vocabulary
  services : List Service

namespace Service

/-- The fields of a service. -/
def record : Record Service :=
  (Record.and (.required "serviceTypeId" .text) <|
    .and (.withDefault "active" .bool true) <|
    .and (.withDefault "priority" (.word 32) 0) <|
    .and (.withDefault "pricing" Pricing.codec .standard) <|
    .and (.required "pingTemplate" Template.codec) <|
    .and (.required "postTemplate" Template.codec) <|
    .and (.required "webhook" Endpoints.codec) <|
    .one (.optional "restrictions" Restrictions.codec)).via
    (fun (serviceType, active, priority, pricing, ping, post, endpoints, restrictions) =>
      ⟨serviceType, active, priority, pricing, ping, post, endpoints, restrictions⟩)
    (fun s => (s.serviceType, s.active, s.priority, s.pricing, s.pingTemplate, s.postTemplate,
      s.endpoints, s.restrictions))

/-- Services as documents. -/
def codec : Codec Service := record.codec

end Service

namespace Buyer

/-- The fields of a buyer. -/
def record : Record Buyer :=
  (Record.and (.required "id" .text) <|
    .and (.required "name" .text) <|
    .and (.withDefault "baseUrl" .text "") <|
    .and (.withDefault "active" .bool true) <|
    .and (.withDefault "auth" Auth.codec .none) <|
    .and (.withDefault "settings" Settings.codec .standard) <|
    .and (.withDefault "complianceFields" Aliases.codec .standard) <|
    .and (.optional "responseMapping" Vocabulary.codec) <|
    .one (.withDefault "serviceConfigs" (.list Service.codec) [])).via
    (fun (id, name, url, active, auth, settings, aliases, vocabulary, services) =>
      ⟨id, name, url, active, auth, settings, aliases, vocabulary, services⟩)
    (fun b => (b.id, b.name, b.baseUrl, b.active, b.auth, b.settings, b.aliases, b.vocabulary,
      b.services))

/-- Buyers as documents. -/
def codec : Codec Buyer := record.codec

/-- The first service of a type. -/
def service? (b : Buyer) (serviceType : String) : Option Service :=
  b.services.find? fun s => s.serviceType == serviceType

end Buyer

end PingPost
