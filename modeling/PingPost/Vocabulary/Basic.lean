import PingPost.Json.Codec

/-!
Vocabularies: in which words and under which names a buyer says what became of a lead.

A buyer's own vocabulary is laid over the common one. Wherever it is silent, the common one
speaks.
-/

namespace PingPost

/-- What an HTTP status code says before the body is read. -/
inductive HttpAction where
  | success
  | retry
  | reject
  | error
  | duplicate
  | invalid
  deriving DecidableEq, Repr

/-- A value at a path that shows success when there is no status. -/
structure Indicator where
  field : String
  value : Json

/-- How a buyer answers. -/
structure Vocabulary where
  pingStatusPath : String
  postStatusPath : String
  accepted : List String
  rejected : List String
  errors : List String
  delivered : List String
  failed : List String
  duplicate : List String
  invalid : List String
  /-- Where a bid amount may stand, in order. -/
  amountPaths : List String
  reasonPaths : List String
  leadIdPaths : List String
  /-- Verdicts on single status codes; the others are judged by their class. -/
  actions : Table Nat HttpAction
  indicators : List Indicator

namespace HttpAction

/-- Names of the verdicts. -/
def codec : Codec HttpAction := .names [
  ("success", .success), ("retry", .retry), ("reject", .reject), ("error", .error),
  ("duplicate", .duplicate), ("invalid", .invalid)]

/-- Verdict by the class of a status code. -/
def ofClass (code : Nat) : HttpAction :=
  if 200 ≤ code ∧ code < 300 then .success
  else if 400 ≤ code ∧ code < 500 then .reject
  else .error

end HttpAction

/-- Indicators as documents. -/
def Indicator.codec : Codec Indicator :=
  ((Record.and (.required "field" .text) <| .one (.required "value" .value)).via
    (fun (field, value) => ⟨field, value⟩) (fun i => (i.field, i.value))).codec

namespace Vocabulary

/-- Verdict on a status code. -/
def action (w : Vocabulary) (code : Nat) : HttpAction :=
  (w.actions.get? code).getD (HttpAction.ofClass code)

/-- A text unless it is blank. -/
def orText (own common : String) : String := if Text.isBlankText own then common else own

/-- A list unless it is empty. -/
def orList {α : Type} (own common : List α) : List α := if own.isEmpty then common else own

/-- The vocabulary `own` over a common one. -/
def laidOn (own common : Vocabulary) : Vocabulary where
  pingStatusPath := orText own.pingStatusPath common.pingStatusPath
  postStatusPath := orText own.postStatusPath common.postStatusPath
  accepted := orList own.accepted common.accepted
  rejected := orList own.rejected common.rejected
  errors := orList own.errors common.errors
  delivered := orList own.delivered common.delivered
  failed := orList own.failed common.failed
  duplicate := orList own.duplicate common.duplicate
  invalid := orList own.invalid common.invalid
  amountPaths := orList own.amountPaths common.amountPaths
  reasonPaths := orList own.reasonPaths common.reasonPaths
  leadIdPaths := orList own.leadIdPaths common.leadIdPaths
  actions := common.actions.putAll own.actions
  indicators := orList own.indicators common.indicators

end Vocabulary

end PingPost
