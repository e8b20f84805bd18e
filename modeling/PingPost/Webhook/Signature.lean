import PingPost.Crypto.Hmac
import PingPost.Table
import PingPost.Text.Blank
import PingPost.Text.Hex
import PingPost.Text.Utf8

/-!
Signatures of webhooks. A buyer signs the body of a webhook with a shared secret and says when it
was sent. A webhook is accepted only if it is fresh and the signature is right.
-/

namespace PingPost

/-- Why a webhook is turned away. -/
inductive WebhookError where
  | missingSignature
  | missingTimestamp
  | invalidSignature
  | expired (maxAgeSecs : Nat)
  | unknownBuyer (buyerId : String)
  deriving DecidableEq, Repr

/-- Wording of an error. -/
def WebhookError.message : WebhookError → String
  | .missingSignature => "missing X-Webhook-Signature header"
  | .missingTimestamp => "missing or malformed X-Webhook-Timestamp header"
  | .invalidSignature => "webhook signature mismatch"
  | .expired maxAgeSecs => s!"webhook older than {maxAgeSecs}s"
  | .unknownBuyer buyerId => s!"no webhook secret registered for buyer {buyerId}"

/-- What signatures are checked against. -/
structure Verifier where
  secrets : Table String String
  maxAgeSecs : Nat

namespace Webhook

/-- The code of a body under a secret. -/
def code (secret : String) (body : List UInt8) : List UInt8 := Hmac.code (Text.toBytes secret) body

/-- The signature of a body under a secret. -/
def sign (secret : String) (body : List UInt8) : String := Text.toHex (code secret body)

/-- What may stand in front of a signature. -/
def scheme : String := "sha256="

/-- A signature without the scheme in front. -/
def dropScheme (cs : List Char) : List Char :=
  if scheme.toList.isPrefixOf cs then cs.drop scheme.length else cs

/-- The code that a signature header stands for. -/
def signedCode? (header : List Char) : Option (List UInt8) := Text.ofHexChars? (dropScheme header)

/-- A signature header without blanks around it, unless nothing is left. -/
def signatureText? (header : Option String) : Option (List Char) :=
  (header.map fun s => Text.trimChars s.toList).filter fun cs => !cs.isEmpty

/-- The second named by a timestamp header. -/
def sentAt? (header : Option String) : Option Int :=
  header.bind fun s => Text.signedWord? (Text.trimChars s.toList)

/-- The distance of two seconds, if their difference is a signed 64-bit word. -/
def age? (now sentAt : Int) : Option Nat :=
  let d := now - sentAt
  if -Nat.pow 2 63 ≤ d ∧ d < Nat.pow 2 63 then some d.natAbs else none

/-- Whether a webhook sent at a second is fresh. -/
def isFresh (maxAgeSecs : Nat) (now sentAt : Int) : Bool :=
  (age? now sentAt).any fun age => age ≤ maxAgeSecs

end Webhook

open Webhook in
/-- Checks a webhook that arrived in the second `now`. -/
def Verifier.verify (v : Verifier) (buyerId : String) (signature timestamp : Option String)
    (body : List UInt8) (now : Int) : Except WebhookError Unit :=
  match v.secrets.get? buyerId with
  | none => .error (.unknownBuyer buyerId)
  | some secret =>
    match signatureText? signature with
    | none => .error .missingSignature
    | some header =>
      match sentAt? timestamp with
      | none => .error .missingTimestamp
      | some sentAt =>
        if !isFresh v.maxAgeSecs now sentAt then .error (.expired v.maxAgeSecs)
        else if signedCode? header = some (code secret body) then .ok ()
        else .error .invalidSignature

end PingPost
