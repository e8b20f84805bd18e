import PingPost.Vocabulary.Standard

/-! Vocabularies as documents. What a document leaves out is taken from the common vocabulary. -/

namespace PingPost.Vocabulary

/-- Reads a status code as the key of an object: its decimal digits. -/
def codeOfText? (s : String) : Option Nat :=
  let n := Text.digitsValue s.toList
  if s.toList.all Char.isDigit && toString n == s && n < Nat.pow 2 16 then some n else none

/-- Verdicts by status code. -/
def actionsCodec : Codec (Table Nat HttpAction) := .table toString codeOfText? HttpAction.codec

/-- The fields of a vocabulary. -/
def record : Record Vocabulary :=
  let words (name : String) (default : List String) : Field (List String) :=
    .withDefault name (.list .text) default
  (Record.and (.withDefault "pingStatusField" .text standard.pingStatusPath) <|
    .and (.withDefault "postStatusField" .text standard.postStatusPath) <|
    .and (words "acceptedValues" standard.accepted) <|
    .and (words "rejectedValues" standard.rejected) <|
    .and (words "errorValues" standard.errors) <|
    .and (words "deliveredValues" standard.delivered) <|
    .and (words "failedValues" standard.failed) <|
    .and (words "duplicateValues" standard.duplicate) <|
    .and (words "invalidValues" standard.invalid) <|
    .and (words "bidAmountFields" standard.amountPaths) <|
    .and (words "reasonFields" standard.reasonPaths) <|
    .and (words "leadIdFields" standard.leadIdPaths) <|
    .and (.withDefault "httpStatusCodes" actionsCodec standard.actions) <|
    .one (.withDefault "successIndicators" (.list Indicator.codec) standard.indicators)).via
    (fun (ping, post, accepted, rejected, errors, delivered, failed, duplicate, invalid, amounts,
        reasons, leadIds, actions, indicators) =>
      ⟨ping, post, accepted, rejected, errors, delivered, failed, duplicate, invalid, amounts,
        reasons, leadIds, actions, indicators⟩)
    (fun w => (w.pingStatusPath, w.postStatusPath, w.accepted, w.rejected, w.errors, w.delivered,
      w.failed, w.duplicate, w.invalid, w.amountPaths, w.reasonPaths, w.leadIdPaths, w.actions,
      w.indicators))

/-- Vocabularies as documents. -/
def codec : Codec Vocabulary := record.codec

end PingPost.Vocabulary
