import PingPost.Json.Codec

/-! The settings of an exchange, read from named texts as an environment holds them. -/

namespace PingPost

/-- Settings that do not depend on how the exchange is run. -/
structure ExchangeSettings where
  maxPayloadBytes : Nat
  vocabularyTtlSecs : Nat
  sweepIntervalSecs : Nat
  webhookMaxAgeSecs : Nat
  maxConcurrentPings : Nat
  deriving DecidableEq, Repr

/-- All settings. -/
structure Config where
  port : Nat
  buyersPath : Option String
  webhookSecrets : Table String String
  exchange : ExchangeSettings

/-- What is wrong with the settings. -/
inductive ConfigError where
  | port
  | secretWithoutBuyer (entry : String)
  | emptySecret
  | notPositiveInteger (name : String)
  | zero (name : String)
  deriving DecidableEq, Repr

/-- Wording of an error. -/
def ConfigError.message : ConfigError → String
  | .port => "PORT must be a valid number between 1-65535"
  | .secretWithoutBuyer entry => s!"WEBHOOK_SECRETS entry '{entry}' must be buyer=secret"
  | .emptySecret => "WEBHOOK_SECRETS entries cannot have an empty buyer or secret"
  | .notPositiveInteger name => s!"{name} must be a positive integer"
  | .zero name => s!"{name} must be greater than zero"

/-- The settings where nothing is said. -/
def ExchangeSettings.standard : ExchangeSettings := ⟨65536, 60, 30, 300, 32⟩

namespace Config

/-- Reads a trimmed entry of the list of secrets. -/
def secret (entry : List Char) : Except ConfigError (String × String) :=
  match Text.splitFirst? '=' entry with
  | none => .error (.secretWithoutBuyer (String.ofList entry))
  | some (buyer, secret) =>
    let buyer := Text.trimChars buyer
    let secret := Text.trimChars secret
    if buyer.isEmpty || secret.isEmpty then .error .emptySecret
    else .ok (String.ofList buyer, String.ofList secret)

/-- Reads `buyer=secret` entries between commas; blank entries do not count, and of one buyer the
last secret does. -/
def secrets (text : String) : Except ConfigError (Table String String) := do
  let entries := (text.toList.splitOn ',').map Text.trimChars
  let pairs ← (entries.filter fun e => !e.isEmpty).mapM secret
  return Table.ofList pairs

/-- Reads a positive 64-bit number; a blank text counts as none. -/
def positive (env : Table String String) (name : String) (default : Nat) :
    Except ConfigError Nat :=
  match (env.get? name).filter fun s => !Text.isBlankText s with
  | none => .ok default
  | some text =>
    match Text.natBelow? (Nat.pow 2 64) (Text.trimChars text.toList) with
    | none => .error (.notPositiveInteger name)
    | some 0 => .error (.zero name)
    | some n => .ok n

/-- Reads all settings. -/
def ofEnvironment (env : Table String String) : Except ConfigError Config := do
  let port ← match Text.natBelow? (Nat.pow 2 16) ((env.get? "PORT").getD "3000").toList with
    | some n => pure n
    | none => throw .port
  let webhookSecrets ← secrets ((env.get? "WEBHOOK_SECRETS").getD "")
  let standard := ExchangeSettings.standard
  let maxPayloadBytes ← positive env "MAX_PAYLOAD_BYTES" standard.maxPayloadBytes
  let vocabularyTtlSecs ← positive env "RESPONSE_MAPPING_TTL_SECS" standard.vocabularyTtlSecs
  let sweepIntervalSecs ← positive env "RETRY_SWEEP_INTERVAL_SECS" standard.sweepIntervalSecs
  let webhookMaxAgeSecs ← positive env "WEBHOOK_MAX_AGE_SECS" standard.webhookMaxAgeSecs
  let maxConcurrentPings ← positive env "MAX_CONCURRENT_PINGS" standard.maxConcurrentPings
  let exchange : ExchangeSettings := ⟨maxPayloadBytes, vocabularyTtlSecs, sweepIntervalSecs,
    webhookMaxAgeSecs, maxConcurrentPings⟩
  let buyersPath := (env.get? "BUYERS_CONFIG_PATH").filter fun s => !Text.isBlankText s
  return ⟨port, buyersPath, webhookSecrets, exchange⟩

/-- A table of texts as an object. -/
def textsToJson (t : Table String String) : Json := .object (t.map fun (k, v) => (k, .text v))

/-- All settings as a document. -/
def toJson (c : Config) : Json := .object [
  ("buyersConfigPath", .ofOption .text c.buyersPath),
  ("maxConcurrentPings", .int c.exchange.maxConcurrentPings),
  ("maxPayloadBytes", .int c.exchange.maxPayloadBytes),
  ("port", .int c.port),
  ("responseMappingTtlSecs", .int c.exchange.vocabularyTtlSecs),
  ("retrySweepIntervalSecs", .int c.exchange.sweepIntervalSecs),
  ("webhookMaxAgeSecs", .int c.exchange.webhookMaxAgeSecs),
  ("webhookSecrets", textsToJson c.webhookSecrets)]

end Config

end PingPost
