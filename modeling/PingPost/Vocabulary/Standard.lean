import PingPost.Vocabulary.Basic

/-! The vocabulary that most buyers speak. -/

namespace PingPost.Vocabulary

/-- The common vocabulary. -/
def standard : Vocabulary where
  pingStatusPath := "status"
  postStatusPath := "status"
  accepted := ["accepted", "accept", "approved", "approve", "success", "successful", "ok", "okay",
    "yes", "y", "true", "1", "bid", "bidding", "interested", "match", "matched", "qualified",
    "valid", "will_buy", "buy", "buying", "purchase", "won", "win", "available", "active",
    "confirmed", "positive", "go"]
  rejected := ["rejected", "reject", "declined", "decline", "denied", "deny", "no", "n", "false",
    "0", "no_bid", "nobid", "pass", "passed", "not_interested", "uninterested", "no_match",
    "nomatch", "unqualified", "not_qualified", "disqualified", "filtered", "capped",
    "cap_reached", "over_cap", "closed", "unavailable", "no_coverage", "out_of_area", "blocked",
    "refused", "skip"]
  errors := ["error", "err", "errored", "failure", "fail", "failed", "exception",
    "invalid_request", "bad_request", "system_error", "server_error", "internal_error", "timeout",
    "timed_out", "maintenance", "throttled", "rate_limited", "unauthorized", "forbidden",
    "auth_error", "authentication_failed", "invalid_credentials", "misconfigured",
    "unknown_error", "fatal", "crash"]
  delivered := ["delivered", "accepted", "accept", "success", "successful", "ok", "okay", "sold",
    "purchased", "received", "created", "complete", "completed", "confirmed", "approved",
    "posted", "processed", "queued", "yes", "true", "1", "lead_accepted", "lead_delivered",
    "done", "saved", "stored", "won"]
  failed := ["failed", "fail", "failure", "rejected", "reject", "declined", "denied", "error",
    "no", "false", "0", "not_sold", "unsold", "refused", "returned", "cancelled", "canceled",
    "expired", "timeout", "capped", "over_cap", "filtered", "blocked", "not_accepted",
    "lead_rejected", "unavailable", "closed", "no_match"]
  duplicate := ["duplicate", "dupe", "dup", "duplicated", "already_exists", "exists",
    "already_received", "already_sold", "repeat", "previously_sold", "existing_lead",
    "duplicate_lead", "lead_exists", "seen", "already_submitted", "resubmission",
    "recent_duplicate", "duplicate_phone", "duplicate_email"]
  invalid := ["invalid", "invalid_data", "bad_data", "validation_error", "validation_failed",
    "malformed", "incomplete", "missing_fields", "missing_data", "bad_phone", "invalid_phone",
    "invalid_email", "bad_email", "invalid_zip", "bad_zip", "fraud", "fraudulent", "suspicious",
    "test_lead", "junk", "bogus", "unverified", "invalid_lead", "data_error"]
  amountPaths := ["bidAmount", "bid_amount", "bid", "amount", "price", "payout", "value",
    "data.bidAmount", "data.bid_amount", "data.price", "result.bid", "response.bid_amount"]
  reasonPaths := ["reason", "message", "error", "errorMessage", "error_message", "detail",
    "details", "description", "data.reason", "data.message", "errors.0"]
  leadIdPaths := ["leadId", "lead_id", "id", "buyerLeadId", "buyer_lead_id", "reference",
    "referenceId", "confirmation", "confirmationId", "data.leadId", "data.lead_id", "data.id"]
  actions := Table.ofList
    [(429, .retry), (502, .retry), (503, .retry), (504, .retry), (409, .duplicate)]
  indicators := [⟨"interested", .bool true⟩, ⟨"accepted", .bool true⟩, ⟨"success", .bool true⟩]

end PingPost.Vocabulary
