import PingPost.Proofs.Pings

/-!
What a PING brings.

A participant's PING brings a bid in one way only: its payload was made, the transport answered it
in time, the answer was read as an acceptance, and the acceptance was priced with an amount
(`Exchange.BringsBid`). In every other way it brings none (`Exchange.BringsNone`). Every result of
`Exchange.pingAll` came about in one of the ways (`Exchange.pingAll_brings`). What is sent and read
depends on the state of the exchange at that time, which is that of `Exchange.board` after some
steps.
-/

namespace PingPost.Exchange

variable {ω : Type} [Transport ω]

section

variable (x : Exchange ω) (lead : Lead) (ps : List Participant) (now : Instant)

/-- Whether a flight is that of a participant's PING, sent after some steps. -/
def Pinged (p : Participant) (flight : Flight ω) : Prop :=
  ∃ body n, x.engine.pingPayload lead p.buyer p.service now = .ok body ∧
    flight = (Transport.send (x.board lead ps now n).exchange.world
      (request .ping p.buyer p.service body)).1

/-- A reply to a participant's PING as it is read after some steps. -/
def readAfter (n : Nat) (p : Participant) (flight : Flight ω) (reply : Reply) : PingAnswer :=
  (((x.board lead ps now n).exchange.arrive flight).readPing p.buyer.id reply.code reply.body).1

/-- Whether a participant's PING was answered in time, and with what answer as it was read. -/
inductive Answered (p : Participant) : Reply → PingAnswer → Nat → Prop where
  | read {flight : Flight ω} {reply : Reply} (n : Nat) :
      Pinged x lead ps now p flight → flight.delayMs ≤ p.service.endpoints.pingTimeoutMs →
      flight.outcome = .ok reply →
      Answered p reply (readAfter x lead ps now n p flight reply) flight.measuredMs

/-- The one way in which a participant's PING brings a bid. -/
inductive BringsBid (p : Participant) : PingResult → Prop where
  | accepted {reply : Reply} {a : PingAnswer} {ms : Nat} {amount : Float} :
      Answered x lead ps now p reply a ms → a.status = .accepted →
      p.service.pricing.price a.amount (.object (lead.facts now)) = .amount amount →
      BringsBid p (p.answered reply a (.object (lead.facts now)) ms)

/-- The ways in which a participant's PING brings no bid. -/
inductive BringsNone (p : Participant) : PingResult → Prop where
  | unmade {e : TemplateError} :
      x.engine.pingPayload lead p.buyer p.service now = .error e → BringsNone p (p.unasked e)
  | late {flight : Flight ω} :
      Pinged x lead ps now p flight → p.service.endpoints.pingTimeoutMs < flight.delayMs →
      BringsNone p
        (p.unanswered (.timeout p.service.endpoints.pingTimeoutMs) flight.measuredMs)
  | failed {flight : Flight ω} {e : TransportError} :
      Pinged x lead ps now p flight → flight.delayMs ≤ p.service.endpoints.pingTimeoutMs →
      flight.outcome = .error e → BringsNone p (p.unanswered e flight.measuredMs)
  | refused {reply : Reply} {a : PingAnswer} {ms : Nat} :
      Answered x lead ps now p reply a ms → a.status ≠ .accepted →
      BringsNone p (p.answered reply a (.object (lead.facts now)) ms)
  | belowFloor {reply : Reply} {a : PingAnswer} {ms : Nat} {amount : Float} :
      Answered x lead ps now p reply a ms → a.status = .accepted →
      p.service.pricing.price a.amount (.object (lead.facts now)) = .belowFloor amount →
      BringsNone p (p.answered reply a (.object (lead.facts now)) ms)
  | unpriced {reply : Reply} {a : PingAnswer} {ms : Nat} :
      Answered x lead ps now p reply a ms → a.status = .accepted →
      p.service.pricing.price a.amount (.object (lead.facts now)) = .unpriced →
      BringsNone p (p.answered reply a (.object (lead.facts now)) ms)

end

variable {x : Exchange ω} {lead : Lead} {ps : List Participant} {now : Instant} {p : Participant}
  {r : PingResult}

/-- A bid that is brought is a success with the amount of the price. -/
theorem BringsBid.success (h : BringsBid x lead ps now p r) : r.bid.success = true := by
  obtain ⟨_, haccepted, hprice⟩ := h
  simp [Participant.answered, haccepted, hprice, Participant.priced]

theorem BringsNone.not_success (h : BringsNone x lead ps now p r) : r.bid.success = false := by
  cases h with
  | unmade => rfl
  | late | failed =>
    unfold Participant.unanswered
    dsimp only
    split <;> rfl
  | refused _ hrefused => simp [Participant.answered, hrefused, Participant.noBid]
  | belowFloor _ haccepted hprice =>
    simp [Participant.answered, haccepted, hprice, Participant.priced, Participant.noBid]
  | unpriced _ haccepted hprice =>
    simp [Participant.answered, haccepted, hprice, Participant.priced, Participant.noBid]

/-! ### Every result came about in one of the ways -/

theorem Answered.brings {reply : Reply} {a : PingAnswer} {ms : Nat}
    (h : Answered x lead ps now p reply a ms) :
    BringsBid x lead ps now p (p.answered reply a (.object (lead.facts now)) ms) ∨
      BringsNone x lead ps now p (p.answered reply a (.object (lead.facts now)) ms) := by
  by_cases haccepted : a.status = .accepted
  · cases hprice : p.service.pricing.price a.amount (.object (lead.facts now)) with
    | amount v => exact .inl (.accepted h haccepted hprice)
    | belowFloor v => exact .inr (.belowFloor h haccepted hprice)
    | unpriced => exact .inr (.unpriced h haccepted hprice)
  · exact .inr (.refused h haccepted)

/-- A PING that is taken in was late, failed, or was answered. -/
theorem settle_brings {f : Flying ω} (h : Pinged x lead ps now f.participant f.flight) (n : Nat) :
    BringsBid x lead ps now f.participant
        (Board.settle (x.board lead ps now n).exchange (.object (lead.facts now)) f).1 ∨
      BringsNone x lead ps now f.participant
        (Board.settle (x.board lead ps now n).exchange (.object (lead.facts now)) f).1 := by
  unfold Board.settle
  dsimp only
  by_cases hlate : f.isLate = true
  · rw [if_pos hlate]
    exact .inr (.late h (by simpa [Flying.isLate] using hlate))
  · have htime : f.flight.delayMs ≤ f.participant.service.endpoints.pingTimeoutMs := by
      simpa [Flying.isLate] using hlate
    rw [if_neg hlate]
    split
    · rename_i e he
      exact .inr (.failed h htime he)
    · rename_i reply hreply
      exact (Answered.read n h htime hreply).brings

/-- What is known of the PINGs after some steps. -/
structure Told (x : Exchange ω) (lead : Lead) (ps : List Participant) (now : Instant)
    (b : Board ω) : Prop where
  reached : ∃ n, b = x.board lead ps now n
  waiting : ∀ w ∈ b.waiting,
    x.engine.pingPayload lead w.participant.buyer w.participant.service now = .ok w.body
  flying : ∀ f ∈ b.flying, Pinged x lead ps now f.participant f.flight
  results : ∀ r ∈ b.results, ∃ p, ps[r.1]? = some p ∧
    (BringsBid x lead ps now p r.2 ∨ BringsNone x lead ps now p r.2)

theorem told_start (x : Exchange ω) (lead : Lead) (ps : List Participant) (now : Instant) :
    Told x lead ps now (x.board lead ps now 0) := by
  have h := x.board_started lead ps now
  refine ⟨⟨0, rfl⟩, fun w hw => (h.waiting w hw).2, fun f hf => ?_, fun r hr => ?_⟩
  · rw [h.flying] at hf
    cases hf
  · obtain ⟨p, e, hp, hr, hpay⟩ := h.results r hr
    exact ⟨p, hp, hr ▸ .inr (.unmade hpay)⟩

theorem Told.next {b b' : Board ω}
    (htracks : b.Tracks (fun _ _ => True) ps (List.range ps.length)) (h : Told x lead ps now b)
    (hn : b.next? (.object (lead.facts now)) = some b') : Told x lead ps now b' := by
  obtain ⟨n, rfl⟩ := h.reached
  -- One step more leads to the next board.
  have hreached : b' = x.board lead ps now (n + 1) := by
    rw [board, Board.run_succ, ← board, hn]
    rfl
  rcases Board.next?_cases hn with ⟨w, rest, hw, rfl⟩ | ⟨f, others, hf, rfl⟩
  · -- The PING that is sent had its payload.
    have hbody := h.waiting w (hw ▸ List.mem_cons_self)
    refine ⟨⟨n + 1, hreached⟩, fun v hv => h.waiting v (hw ▸ List.mem_cons_of_mem w hv),
      fun f hf => ?_, h.results⟩
    rcases List.mem_append.mp hf with hf | hf
    · exact h.flying f hf
    · cases List.mem_singleton.mp hf
      exact ⟨w.body, n, hbody, rfl⟩
  · have hmem : f ∈ (x.board lead ps now n).flying := hf.mem_iff.mpr List.mem_cons_self
    refine ⟨⟨n + 1, hreached⟩, h.waiting,
      fun g hg => h.flying g (hf.mem_iff.mpr (List.mem_cons_of_mem f hg)), fun r hr => ?_⟩
    rcases Table.mem_put hr with rfl | hr
    · exact ⟨f.participant, htracks.flying f hmem, settle_brings (h.flying f hmem) n⟩
    · exact h.results r hr

/-- Every PING brings a bid or brings none, in one of the ways. -/
theorem pingAll_brings (x : Exchange ω) (lead : Lead) (ps : List Participant) (now : Instant) :
    List.Forall₂ (fun p r => BringsBid x lead ps now p r ∨ BringsNone x lead ps now p r) ps
      (x.pingAll lead ps now).1 := by
  refine pingAll_forall₂_of_board fun n => ?_
  have htold : Told x lead ps now (x.board lead ps now n) :=
    board_induction (x.told_start lead ps now) (fun _ _ htracks hb hn => hb.next htracks hn) n
  exact htold.results

end PingPost.Exchange
