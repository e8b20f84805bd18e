import PingPost.Exchange.Document
import PingPost.Proofs.Offers
import PingPost.Proofs.Replay
import PingPost.Proofs.Sample

/-!
What comes of a webhook.

A webhook whose verification fails is turned away: the exchange stays as it was, and the sender is
answered with `Problem.refusal`, whatever the reason and whatever contexts the problem was put into
on its way out. Two senders who are turned away, by different exchanges and for different reasons,
can therefore not be told apart by what they see. A webhook that is verified is put on record with
one entry, which says that the lead was won just when the body is read as a delivery in the
buyer's vocabulary.
-/

namespace PingPost

/-- A webhook as it arrives. -/
structure Webhook.Message where
  buyerId : String
  signature : Option String
  timestamp : Option String
  body : List UInt8

/-- What the sender of a webhook is answered; a problem may be put into contexts on its way out. -/
def Webhook.answer (contexts : List String) : Except WebhookError Receipt → HttpAnswer
  | .ok receipt => ⟨200, receipt.toJson⟩
  | .error e => ((Problem.ofWebhook e).within contexts).answer

namespace Problem

/-- The answer to all who are not authorized. -/
def refusal : HttpAnswer := ⟨401, errorBody "Unauthorized"⟩

theorem answer_within (p : Problem) (contexts : List String) :
    (p.within contexts).answer = p.answer := by
  induction contexts generalizing p with
  | nil => rfl
  | cons context contexts ih => exact ih (inContext context p)

theorem answer_ofWebhook (e : WebhookError) : (ofWebhook e).answer = refusal := rfl

end Problem

theorem Webhook.answer_error (contexts : List String) (e : WebhookError) :
    Webhook.answer contexts (.error e) = Problem.refusal :=
  (Problem.answer_within _ contexts).trans (Problem.answer_ofWebhook e)

namespace Exchange

variable {ω ω' : Type}

/-- What the verification of a webhook says. -/
def verdict (x : Exchange ω) (w : Webhook.Message) (now : Instant) : Except WebhookError Unit :=
  x.verifier.verify w.buyerId w.signature w.timestamp w.body now.seconds

/-- Takes in a webhook. -/
def takeIn (x : Exchange ω) (w : Webhook.Message) (now : Instant) :
    Except WebhookError Receipt × Exchange ω :=
  x.receiveWebhook w.buyerId w.signature w.timestamp w.body now

/-- A body as it is read in a buyer's vocabulary, where it stands for a successful answer. -/
def readBody (x : Exchange ω) (w : Webhook.Message) : PostAnswer :=
  (x.vocabulary w.buyerId).1.readPost 200 (Text.ofBytes w.body)

variable {x : Exchange ω} {w : Webhook.Message} {now : Instant}

theorem takeIn_of_error {e : WebhookError} (h : x.verdict w now = .error e) :
    x.takeIn w now = (.error e, x) := by
  rw [verdict] at h
  rw [takeIn, receiveWebhook, h]

/-- A verified webhook is remembered in one entry, and its buyer's vocabulary in any case. -/
theorem takeIn_of_ok (h : x.verdict w now = .ok ()) :
    (x.takeIn w now).2 = (x.vocabulary w.buyerId).2.record (Webhook.toEntry w.buyerId
      (Webhook.leadId? (Text.ofBytes w.body)) (x.readBody w)) := by
  rw [verdict] at h
  rw [takeIn, receiveWebhook, h]
  rfl

theorem outcome_toEntry (buyerId : String) (leadId : Option String) (a : PostAnswer) :
    (Webhook.toEntry buyerId leadId a).outcome = .won ↔ a.status = .delivered := by
  rw [Webhook.toEntry]
  split <;> simp_all

/-- **A webhook that is turned away has no effect, and its sender does not learn why**: what is
answered is what any other sender is answered who is turned away, by any exchange. A webhook that is
verified adds one entry to the ledger, which is won just when the body is read as a delivery. -/
theorem takeIn_spec (x : Exchange ω) (w : Webhook.Message) (now : Instant) :
    (∀ e, x.verdict w now = .error e →
      x.takeIn w now = (.error e, x) ∧
      ∀ (y : Exchange ω') (w' : Webhook.Message) (now' : Instant) (e' : WebhookError)
        (contexts contexts' : List String), y.verdict w' now' = .error e' →
        Webhook.answer contexts (x.takeIn w now).1 =
          Webhook.answer contexts' (y.takeIn w' now').1) ∧
    (x.verdict w now = .ok () → ∃ entry : Entry,
      x.Appends [entry] (x.takeIn w now).2 ∧ x.SameSurroundings (x.takeIn w now).2 ∧
      entry.action = .webhook ∧ entry.buyerId = w.buyerId ∧
      (entry.outcome = .won ↔ (x.readBody w).status = .delivered)) := by
  refine ⟨fun e hrefused => ⟨takeIn_of_error hrefused, fun y w' now' e' contexts contexts' h => ?_⟩,
    fun hverified => ?_⟩
  · rw [takeIn_of_error hrefused, takeIn_of_error h, Webhook.answer_error, Webhook.answer_error]
  · have hframe := x.vocabulary_appends w.buyerId
    have hsame := x.vocabulary_surroundings w.buyerId
    rw [takeIn_of_ok hverified]
    exact ⟨_, hframe.after (record_appends _ _), ⟨hsame.registry, hsame.world⟩, rfl, rfl,
      outcome_toEntry ..⟩

end Exchange

namespace Sample

/-- The market with the secret of the buyer. -/
def guarded : Exchange ScriptedWorld := { exchange .standard with verifier }

/-- The webhook about the sale, with a signature. -/
def message (signature : Option String) : Webhook.Message := ⟨"alpha", signature, some "100", body⟩

end Sample

open Sample in
set_option maxRecDepth 10000 in
/-- The buyer's own webhook is put on record as won; one without a signature has the answer of one
that is too old. -/
theorem Exchange.takeIn_spec_sample :
    guarded.verdict (message signature) ⟨400, 0⟩ = .ok () ∧
      (∃ entry, guarded.Appends [entry] (guarded.takeIn (message signature) ⟨400, 0⟩).2 ∧
        entry.outcome = .won) ∧
      guarded.verdict (message none) ⟨400, 0⟩ = .error .missingSignature ∧
      guarded.verdict (message signature) ⟨2000, 0⟩ = .error (.expired 300) ∧
      Webhook.answer ["webhook"] (guarded.takeIn (message none) ⟨400, 0⟩).1 =
        Webhook.answer [] (guarded.takeIn (message signature) ⟨2000, 0⟩).1 := by
  have hverified : guarded.verdict (message signature) ⟨400, 0⟩ = .ok () :=
    Verifier.verify_eq_ok_iff.mpr ⟨signature_authentic, "100", rfl, 100, by decide, by decide⟩
  have hold : guarded.verdict (message signature) ⟨2000, 0⟩ = .error (.expired 300) :=
    Verifier.verify_eq_expired signature_authentic
      (by decide : Webhook.sentAt? (some "100") = some 100) (by decide)
  have hunsigned : guarded.verdict (message none) ⟨400, 0⟩ = .error .missingSignature := rfl
  have hdelivered : (guarded.readBody (message signature)).status = .delivered := by decide +kernel
  obtain ⟨-, haccepted⟩ := @takeIn_spec _ ScriptedWorld guarded (message signature) ⟨400, 0⟩
  obtain ⟨entry, happends, -, -, -, hwon⟩ := haccepted hverified
  obtain ⟨hrefused, -⟩ := takeIn_spec guarded (message none) ⟨400, 0⟩
  exact ⟨hverified, ⟨entry, happends, hwon.mpr hdelivered⟩, hunsigned, hold,
    (hrefused _ hunsigned).2 guarded (message signature) ⟨2000, 0⟩ _ _ _ hold⟩

end PingPost
