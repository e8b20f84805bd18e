import PingPost.Exchange.Auction
import PingPost.Exchange.Requests

/-!
What the operations do to the books of an exchange: the ledger, the backlog, the leads that were
given up, and the count of auctions.

A call to a buyer touches none of them, whatever the world does meanwhile; it may only change the
registry, the world, the vocabularies and the monitor. `Exchange.Appends` says that nothing but
the given entries was added to the books; the frame facts below are its cases with no entry, and
`Exchange.deliver_appends` is the one operation that adds a POST. Only a retry changes an entry that
is there, and only the number of retries it led to (`Exchange.countRetry_recounts`).
-/

namespace PingPost

namespace Exchange

variable {ω : Type}

/-- The second exchange has the books of the first one with some entries more in the ledger. -/
structure Appends (x : Exchange ω) (es : Ledger) (y : Exchange ω) : Prop where
  ledger : y.ledger = x.ledger ++ es
  backlog : y.backlog = x.backlog
  deadLetters : y.deadLetters = x.deadLetters
  auctions : y.auctions = x.auctions

namespace Appends

variable {x y z : Exchange ω} {es fs : Ledger}

theorem refl (x : Exchange ω) : x.Appends [] x := ⟨by simp, rfl, rfl, rfl⟩

theorem trans (h : x.Appends es y) (h' : y.Appends fs z) : x.Appends (es ++ fs) z where
  ledger := by rw [h'.ledger, h.ledger, List.append_assoc]
  backlog := h'.backlog.trans h.backlog
  deadLetters := h'.deadLetters.trans h.deadLetters
  auctions := h'.auctions.trans h.auctions

/-- Entries may be thought of as added one after the other. -/
theorem split (h : x.Appends (es ++ fs) y) : ∃ w, x.Appends es w ∧ w.Appends fs y :=
  ⟨{ x with ledger := x.ledger ++ es }, ⟨rfl, rfl, rfl, rfl⟩,
    ⟨by rw [h.ledger, List.append_assoc], h.backlog, h.deadLetters, h.auctions⟩⟩

/-- What touches no books may come before. -/
theorem after (h : x.Appends [] y) (h' : y.Appends es z) : x.Appends es z := h.trans h'

/-- What touches no books may follow. -/
theorem before (h : x.Appends es y) (h' : y.Appends [] z) : x.Appends es z := by
  simpa using h.trans h'

end Appends

/-- The second exchange has the books of the first one up to the numbers of retries. -/
structure Recounts (x y : Exchange ω) : Prop where
  ledger : y.ledger.map Entry.uncounted = x.ledger.map Entry.uncounted
  backlog : y.backlog = x.backlog
  deadLetters : y.deadLetters = x.deadLetters
  auctions : y.auctions = x.auctions

theorem countRetry_recounts (x : Exchange ω) (origin : Option Nat) :
    x.Recounts (x.countRetry origin) := by
  unfold countRetry
  split
  · exact ⟨Ledger.map_uncounted_countRetry _ _, rfl, rfl, rfl⟩
  · exact ⟨rfl, rfl, rfl, rfl⟩

/-! ### Operations without an entry -/

theorem vocabulary_appends (x : Exchange ω) (buyerId : String) :
    x.Appends [] (x.vocabulary buyerId).2 := by
  unfold vocabulary
  split <;> exact ⟨by simp, rfl, rfl, rfl⟩

theorem readPing_appends (x : Exchange ω) (buyerId : String) (code : Nat) (body : String) :
    x.Appends [] (x.readPing buyerId code body).2 :=
  x.vocabulary_appends buyerId

theorem readPost_appends (x : Exchange ω) (buyerId : String) (code : Nat) (body : String) :
    x.Appends [] (x.readPost buyerId code body).2 :=
  x.vocabulary_appends buyerId

theorem payload_appends (x : Exchange ω) (kind : CallKind) (lead : Lead) (buyer : Buyer)
    (service : Service) (now : Instant) :
    x.Appends [] (x.payload kind lead buyer service now).2 := by
  unfold payload notePayload
  dsimp only
  split <;> exact ⟨by simp, rfl, rfl, rfl⟩

theorem notePayload_eq (x : Exchange ω) (payload : Except TemplateError Fields) :
    ∃ monitor interrupted, x.notePayload payload = { x with monitor, interrupted } := by
  unfold notePayload
  split
  · exact ⟨_, x.interrupted, rfl⟩
  · exact ⟨x.monitor, true, rfl⟩
  · exact ⟨_, x.interrupted, rfl⟩

theorem noteResponse_appends (x : Exchange ω) (buyerId : String) (ms : Nat) (healthy : Bool) :
    x.Appends [] (x.noteResponse buyerId ms healthy) :=
  ⟨by simp [noteResponse], rfl, rfl, rfl⟩

theorem record_appends (x : Exchange ω) (e : Entry) : x.Appends [e] (x.record e) :=
  ⟨rfl, rfl, rfl, rfl⟩

/-- The entries about the PINGs follow all others. -/
theorem recordPings_appends (x : Exchange ω) (id : AuctionId) (lead : Lead)
    (pings : List PingResult) (winner : Option String) :
    x.Appends (pings.map fun r => r.toEntry id lead.id winner)
      (x.recordPings id lead pings winner) := by
  unfold recordPings
  induction pings generalizing x with
  | nil => exact .refl x
  | cons r pings ih => exact (x.record_appends _).trans (ih _)

variable [Transport ω]

theorem launch_appends (x : Exchange ω) (r : Request) : x.Appends [] (x.launch r).2 :=
  ⟨by simp [launch], rfl, rfl, rfl⟩

omit [Transport ω] in
theorem arrive_appends (x : Exchange ω) (flight : Flight ω) : x.Appends [] (x.arrive flight) :=
  ⟨by simp [arrive], rfl, rfl, rfl⟩

theorem interlude_appends (x : Exchange ω) : x.Appends [] x.interlude :=
  ⟨by simp [interlude], rfl, rfl, rfl⟩

theorem call_appends (x : Exchange ω) (r : Request) : x.Appends [] (x.call r).2.2 := by
  simp only [call]
  split
  · exact (x.launch_appends r).after (arrive_appends _ _)
  · exact x.launch_appends r

/-! ### A POST -/

/-- What comes of a POST, before it is put on record: it is the buyer's, it has no place in the
ledger yet, and its label says that the lead was delivered just when the buyer took it. -/
theorem post_spec (x : Exchange ω) (lead : Lead) (buyer : Buyer) (service : Service)
    (now : Instant) :
    (x.post lead buyer service now).1.buyerId = buyer.id ∧
      ((x.post lead buyer service now).2.1 = .delivered ↔
        (x.post lead buyer service now).1.success = true) ∧
      x.Appends [] (x.post lead buyer service now).2.2 := by
  have hpay := x.payload_appends .post lead buyer service now
  unfold post
  split
  · rename_i e y heq
    rw [heq] at hpay
    exact ⟨rfl, by simp [PostResult.unanswered], hpay⟩
  · rename_i body y heq
    rw [heq] at hpay
    have hcall := y.call_appends (request .post buyer service body)
    split
    · rename_i e elapsed z heq'
      rw [heq'] at hcall
      exact ⟨rfl, by simp [PostResult.unanswered], hpay.after hcall⟩
    · rename_i reply elapsed z heq'
      rw [heq'] at hcall
      have hread := z.readPost_appends buyer.id reply.code reply.body
      exact ⟨rfl, by simp [PostResult.answered], hpay.after (hcall.after hread)⟩

/-- A delivery adds one entry to the books, the one the result names; the entry says that the lead
was delivered just when the buyer took it. -/
theorem deliver_appends (x : Exchange ω) (lead : Lead) (buyer : Buyer) (service : Service)
    (context : DeliveryContext) (now : Instant) {p : PostResult} {y : Exchange ω}
    (h : x.deliver lead buyer service context now = (p, y)) :
    p.buyerId = buyer.id ∧ p.entry = some x.ledger.length ∧
      ∃ label : Label, (label = .delivered ↔ p.success = true) ∧
        x.Appends [p.toEntry lead.id label context] y := by
  obtain ⟨hid, hlabel, hframe⟩ := x.post_spec lead buyer service now
  rcases hpost : x.post lead buyer service now with ⟨q, label, z⟩
  rw [hpost] at hid hlabel hframe
  simp only [deliver, hpost, concludePost, Prod.mk.injEq] at h
  obtain ⟨rfl, rfl⟩ := h
  have hnote := hframe.after (z.noteResponse_appends q.buyerId q.responseTimeMs q.isHealthy)
  refine ⟨hid, ?_, label, hlabel, hnote.after (record_appends _ _)⟩
  simp only [hnote.ledger, List.append_nil]

/-! ### Requests -/

omit [Transport ω] in
theorem preview_appends (x : Exchange ω) (buyerId : String) (kind : CallKind) (lead : Lead)
    (now : Instant) : x.Appends [] (x.preview buyerId kind lead now).2 := by
  unfold preview
  split
  · exact .refl x
  split
  · exact .refl x
  · exact x.payload_appends _ _ _ _ _

theorem upsertBuyer_appends (x : Exchange ω) (buyerId : String) (buyer : Buyer) :
    x.Appends [] (x.upsertBuyer buyerId buyer).2 := by
  rcases x.upsertBuyer_cases buyerId buyer with ⟨-, heq⟩ | ⟨e, -, heq⟩ | ⟨-, -, heq⟩ <;> rw [heq]
  · exact .refl x
  · exact .refl x
  · exact ⟨by simp, rfl, rfl, rfl⟩

omit [Transport ω] in
/-- A webhook belongs to no auction. -/
theorem receiveWebhook_appends (x : Exchange ω) (buyerId : String)
    (signature timestamp : Option String) (body : List UInt8) (now : Instant) :
    ∃ es : Ledger, (∀ e ∈ es, e.auction = none ∧ e.action = .webhook ∧ e.retryCount = 0) ∧
      x.Appends es (x.receiveWebhook buyerId signature timestamp body now).2 := by
  unfold receiveWebhook
  split
  · exact ⟨[], by simp, .refl x⟩
  · have hread := x.readPost_appends buyerId 200 (Text.ofBytes body)
    exact ⟨_, List.forall_mem_singleton.mpr ⟨rfl, rfl, rfl⟩, hread.after (record_appends _ _)⟩

end Exchange

end PingPost
