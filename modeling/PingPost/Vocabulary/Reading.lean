import PingPost.Vocabulary.Basic
import PingPost.Json.Path
import PingPost.Json.Reading

/-!
Answers of buyers, read in their vocabulary.

The status code is judged first. Only after a code that means success does the body count: its
status word when it has one, else the indicators, else whether it names an amount. Whatever is not
understood is read as a refusal.
-/

namespace PingPost

/-- Verdict on a PING. -/
inductive PingStatus where
  | accepted
  | rejected
  | error
  deriving DecidableEq, Repr

/-- Verdict on a POST. -/
inductive PostStatus where
  | delivered
  | failed
  | duplicate
  | invalid
  deriving DecidableEq, Repr

/-- What the answer to a PING says. -/
structure PingAnswer where
  status : PingStatus
  amount : Option Float
  shouldRetry : Bool
  rawStatus : Option String
  reason : Option String

/-- What the answer to a POST says. -/
structure PostAnswer where
  status : PostStatus
  reason : Option String
  leadId : Option String
  shouldRetry : Bool
  rawStatus : Option String
  deriving DecidableEq, Repr

/-- Name of a verdict. -/
def PingStatus.name : PingStatus → String
  | .accepted => "accepted"
  | .rejected => "rejected"
  | .error => "error"

/-- Name of a verdict. -/
def PostStatus.name : PostStatus → String
  | .delivered => "delivered"
  | .failed => "failed"
  | .duplicate => "duplicate"
  | .invalid => "invalid"

namespace Vocabulary

/-- Normal form of a status word: lower case, with one underscore for blanks and hyphens. -/
def normalForm (word : String) : String :=
  "_".intercalate <|
    (Text.runsBetween (fun c => Text.isBlank c || c == '-')
      (Text.lowerChars (Text.trimChars word.toList))).map String.ofList

/-- Whether a list has a word of the given normal form. -/
def hasWord (words : List String) (form : String) : Bool := words.any fun w => normalForm w == form

/-- The first positive amount at one of the paths. -/
def amountAt? (body : Json) (paths : List String) : Option Float :=
  paths.findSome? fun path =>
    ((body.lookup? path).bind Json.asNumber?).filter fun x => x.isFinite && 0 < x

/-- A value as text, unless it is a list, an object or `null`. -/
def scalarText? : Json → Option String
  | .null | .list _ | .object _ => none
  | v => some v.asText

/-- The first text at one of the paths that is not blank, without blanks at its ends. -/
def textAt? (body : Json) (paths : List String) : Option String :=
  paths.findSome? fun path =>
    (((body.lookup? path).bind scalarText?).map Text.trim).filter fun s => !s.isEmpty

/-- Whether a value is the one an indicator waits for. -/
def Indicator.isMet (i : Indicator) (actual : Json) : Bool :=
  actual == i.value || normalForm actual.asText == normalForm i.value.asText

/-- What the indicators say: nothing when none of their fields is there, else whether one of
them is met. -/
def indicated? (body : Json) (indicators : List Indicator) : Option Bool :=
  let found := indicators.filterMap fun i => (body.lookup? i.field).map (Indicator.isMet i)
  if found.isEmpty then none else some (found.any id)

/-- The body of an answer: JSON if it is JSON, else a text. -/
def readBody (body : String) : Json :=
  let text := Text.trim body
  if text.isEmpty then .null else (Json.read? text).getD (.text text)

/-- The status word of a body: the whole body when it is a text, else the value at a path. -/
def statusWord? (body : Json) (path : String) : Option String :=
  let value := match body with
    | .text s => some (Json.text s)
    | _ => body.lookup? path
  (value.bind scalarText?).filter fun s => !Text.isBlankText s

/-- Verdict of a status word on a PING. -/
def pingStatusOfWord (w : Vocabulary) (form : String) : PingStatus :=
  if hasWord w.accepted form then .accepted
  else if hasWord w.rejected form then .rejected
  else if hasWord w.errors form then .error
  else .rejected

/-- Verdict of a status word on a POST. -/
def postStatusOfWord (w : Vocabulary) (form : String) : PostStatus :=
  if hasWord w.delivered form then .delivered
  else if hasWord w.failed form then .failed
  else if hasWord w.duplicate form then .duplicate
  else if hasWord w.invalid form then .invalid
  else .failed

/-- Verdict of a body on a PING. -/
def pingStatusOfBody (w : Vocabulary) (body : Json) : PingStatus :=
  match statusWord? body w.pingStatusPath with
  | some word => w.pingStatusOfWord (normalForm word)
  | none =>
    match indicated? body w.indicators with
    | some true => .accepted
    | some false => .rejected
    | none => if (amountAt? body w.amountPaths).isSome then .accepted else .rejected

/-- Verdict of a body on a POST. -/
def postStatusOfBody (w : Vocabulary) (body : Json) : PostStatus :=
  match statusWord? body w.postStatusPath with
  | some word => w.postStatusOfWord (normalForm word)
  | none => if indicated? body w.indicators = some false then .failed else .delivered

/-- Reads the answer to a PING. -/
def readPing (w : Vocabulary) (code : Nat) (text : String) : PingAnswer :=
  let body := readBody text
  let reason := textAt? body w.reasonPaths
  let early (status : PingStatus) (retry : Bool) : PingAnswer :=
    ⟨status, none, retry, some (toString code), reason⟩
  match w.action code with
  | .retry => early .error true
  | .error => early .error false
  | .reject | .duplicate | .invalid => early .rejected false
  | .success =>
    let status := w.pingStatusOfBody body
    { status
      amount := if status = .accepted then amountAt? body w.amountPaths else none
      shouldRetry := false
      rawStatus := statusWord? body w.pingStatusPath
      reason }

/-- Reads the answer to a POST. -/
def readPost (w : Vocabulary) (code : Nat) (text : String) : PostAnswer :=
  let body := readBody text
  let reason := textAt? body w.reasonPaths
  let early (status : PostStatus) (retry : Bool) : PostAnswer :=
    ⟨status, reason, none, retry, some (toString code)⟩
  match w.action code with
  | .retry => early .failed true
  | .error | .reject => early .failed false
  | .duplicate => early .duplicate false
  | .invalid => early .invalid false
  | .success =>
    let status := w.postStatusOfBody body
    { status
      reason
      leadId := if status = .delivered then textAt? body w.leadIdPaths else none
      shouldRetry := false
      rawStatus := statusWord? body w.postStatusPath }

end Vocabulary

/-- The fields of an answer to a PING. -/
def PingAnswer.toJson (a : PingAnswer) : Json := .object [
  ("bidAmount", .ofOption .ofFloat a.amount), ("rawStatus", .ofOption .text a.rawStatus),
  ("reason", .ofOption .text a.reason), ("shouldRetry", .bool a.shouldRetry),
  ("status", .text a.status.name)]

/-- The fields of an answer to a POST. -/
def PostAnswer.toJson (a : PostAnswer) : Json := .object [
  ("buyerLeadId", .ofOption .text a.leadId), ("rawStatus", .ofOption .text a.rawStatus),
  ("reason", .ofOption .text a.reason), ("shouldRetry", .bool a.shouldRetry),
  ("status", .text a.status.name)]

end PingPost
