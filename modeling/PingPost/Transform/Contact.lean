import PingPost.Transform.Basic
import PingPost.Phone.Number
import PingPost.Net.Email
import PingPost.Net.Url

/-! Transforms of telephone numbers, mail addresses, places and net addresses. -/

namespace PingPost.Transform

/-- The ten digits of a home telephone number, without a leading country digit. -/
def homeDigits (v : Json) : Except String (List Char) :=
  let ds := Text.asciiDigits v.asText
  let ds := if ds.length = 11 ∧ ds.head? = some '1' then ds.tail else ds
  if ds.length = 10 then .ok ds
  else .error s!"expected 10 digit US phone, got {ds.length} digits"

/-- Ten digits. -/
def phoneDigits : Transform := fun v _ => do
  let ds ← homeDigits v
  return .text (String.ofList ds)

/-- Ten digits with hyphens. -/
def phoneDashed : Transform := fun v _ => do
  let ds ← homeDigits v
  return .text (String.ofList (ds.take 3 ++ '-' :: (ds.drop 3).take 3 ++ '-' :: ds.drop 6))

/-- Ten digits with the area in parentheses. -/
def phoneParens : Transform := fun v _ => do
  let ds ← homeDigits v
  return .text (String.ofList
    ('(' :: ds.take 3 ++ ") ".toList ++ (ds.drop 3).take 3 ++ '-' :: ds.drop 6))

/-- International number without separators. -/
def phoneE164 : Transform := fun v _ =>
  let raw := v.asText
  match Phone.PhoneNumber.parse? (Text.trim raw) with
  | .error e => refuse s!"unparseable phone '{raw}': {e.name}"
  | .ok n => if n.isValid then .ok (.text n.e164) else refuse s!"invalid US phone '{raw}'"

/-- Trimmed mail address in lower case. -/
def emailNormalize : Transform := fun v _ =>
  let email := Text.lower (Text.trim v.asText)
  if Net.Email.isValid email then .ok (.text email) else refuse s!"'{email}' is not a valid email"

/-- Domain of a mail address. -/
def emailDomain : Transform := fun v _ =>
  let email := Text.lower (Text.trim v.asText)
  match Net.Email.domain? email with
  | some d => .ok (.text d)
  | none => refuse s!"'{email}' has no domain"

/-- First five digits of a zip code. -/
def zip5 : Transform := fun v _ =>
  let ds := (Text.asciiDigits v.asText).take 5
  if ds.length = 5 then .ok (.text (String.ofList ds)) else refuse "zip code needs 5 digits"

/-- Two-letter state code in upper case. -/
def stateCode : Transform := fun v _ =>
  let code := Text.upper (Text.trim v.asText)
  if code.utf8ByteSize = 2 ∧ code.toList.all Char.isAlpha then .ok (.text code)
  else refuse s!"'{code}' is not a two-letter state code"

/-- Written form of a secure URL. -/
def certUrl : Transform := fun v _ =>
  match Net.Url.parse? (Text.trim v.asText) with
  | .error e => refuse s!"invalid certificate URL: {e.message}"
  | .ok u =>
    if u.scheme = "https" then .ok (.text u.text) else refuse "certificate URL must use https"

/-- Written form of an internet address. -/
def ipAddress : Transform := fun v _ =>
  let raw := v.asText
  match Net.Address.ofText? (Text.trim raw) with
  | some a => .ok (.text a.text)
  | none => refuse s!"'{raw}' is not an IP address"

end PingPost.Transform
