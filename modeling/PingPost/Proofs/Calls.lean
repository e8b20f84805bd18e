import PingPost.Proofs.Offers
import PingPost.Proofs.Sweep

/-!
The calls of an exchange.

A world that keeps a record of the calls it is handed (`Recorded`) shows that `Exchange.offers` has
left none out: in every run the POSTs on record are the offers, in their order, each handed over in
the world of its moment. What others do to the world does not touch the record.
-/

namespace PingPost

/-- A world with a record of the calls it was handed, each with the world at that moment. -/
structure Recorded (ω : Type) where
  world : ω
  calls : List (ω × Request)

variable {ω : Type}

/-- What others do, in a world with a record. -/
def Recorded.lift (act : Registry → ω → Registry × ω) (registry : Registry) (w : Recorded ω) :
    Registry × Recorded ω :=
  let (registry, world) := act registry w.world
  (registry, { w with world })

instance [Transport ω] : Transport (Recorded ω) where
  send w r :=
    let (flight, world) := Transport.send w.world r
    (⟨flight.delayMs, flight.measuredMs, Recorded.lift flight.effect, flight.outcome⟩,
      ⟨world, w.calls ++ [(w.world, r)]⟩)
  isAvailable w buyerId := Transport.isAvailable w.world buyerId
  reset w buyerId := { w with world := Transport.reset w.world buyerId }
  meanwhile := Recorded.lift Transport.meanwhile

/-- What may happen, in a world with a record. -/
def Event.recorded : Event ω → Event (Recorded ω)
  | .auction lead now => .auction lead now
  | .request lead now => .request lead now
  | .sweep now clock => .sweep now clock
  | .sweepItem key now clock => .sweepItem key now clock
  | .upsert buyerId buyer => .upsert buyerId buyer
  | .webhook buyerId signature timestamp body now => .webhook buyerId signature timestamp body now
  | .preview buyerId kind lead now => .preview buyerId kind lead now
  | .others act => .others (Recorded.lift act)

namespace Exchange

/-- The POSTs on record. -/
def posted (x : Exchange (Recorded ω)) : List (ω × Request) :=
  x.world.calls.filter fun c => c.2.kind = .post

/-- The record of an offer. -/
def callOf (o : Offer (Recorded ω)) : ω × Request := (o.exchange.world.world, o.request)

/-! ### Calls -/

theorem SameSurroundings.posted {x y : Exchange (Recorded ω)} (h : x.SameSurroundings y) :
    y.posted = x.posted := by
  rw [Exchange.posted, Exchange.posted, h.world]

/-- Whether what happens up to an arrival leaves the record alone. -/
def Quiet (flight : Flight (Recorded ω)) : Prop :=
  ∀ registry w, (flight.effect registry w).2.calls = w.calls

theorem arrive_posted (x : Exchange (Recorded ω)) {flight : Flight (Recorded ω)}
    (h : Quiet flight) : (x.arrive flight).posted = x.posted := by
  simp only [posted, arrive, h x.registry x.world]

variable [Transport ω]

theorem quiet_send (w : Recorded ω) (r : Request) : Quiet (Transport.send w r).1 :=
  fun _ _ => rfl

theorem launch_posted (x : Exchange (Recorded ω)) (r : Request) :
    (x.launch r).2.posted =
      x.posted ++ if r.kind = .post then [(x.world.world, r)] else [] := by
  have hcalls : (x.launch r).2.world.calls = x.world.calls ++ [(x.world.world, r)] := rfl
  rw [posted, hcalls, List.filter_append, List.filter_singleton]
  by_cases hkind : r.kind = .post <;> simp [posted, hkind]

theorem call_posted (x : Exchange (Recorded ω)) {r : Request} (hkind : r.kind = .post) :
    (x.call r).2.2.posted = x.posted ++ [(x.world.world, r)] := by
  have hlaunch := x.launch_posted r
  rw [if_pos hkind] at hlaunch
  simp only [call]
  split
  · rw [← hlaunch]
    exact arrive_posted _ (quiet_send x.world r)
  · exact hlaunch

theorem post_posted (x : Exchange (Recorded ω)) (lead : Lead) (buyer : Buyer) (service : Service)
    (now : Instant) (occasion : Occasion (Recorded ω)) :
    (x.post lead buyer service now).2.2.posted =
      x.posted ++ (x.deliverOffers lead buyer service now occasion).map callOf := by
  have hpayload := x.payload_surroundings .post lead buyer service now
  rcases hpay : x.payload .post lead buyer service now with ⟨e | body, y⟩
  · rw [hpay] at hpayload
    simp [post, deliverOffers, hpay, hpayload.posted]
  · rw [hpay] at hpayload
    have hcall := y.call_posted (r := request .post buyer service body) rfl
    rw [hpayload.posted] at hcall
    simp only [post, deliverOffers, hpay, List.map_singleton, callOf]
    split
    · rename_i e elapsed z heq
      rw [heq] at hcall
      exact hcall
    · rename_i reply elapsed z heq
      rw [heq] at hcall
      exact (z.vocabulary_surroundings buyer.id).posted.trans hcall

/-- Putting a POST on record touches the books only. -/
theorem deliver_posted (x : Exchange (Recorded ω)) (lead : Lead) (buyer : Buyer)
    (service : Service) (context : DeliveryContext) (now : Instant)
    (occasion : Occasion (Recorded ω)) :
    (x.deliver lead buyer service context now).2.posted =
      x.posted ++ (x.deliverOffers lead buyer service now occasion).map callOf := by
  have hposted := x.post_posted lead buyer service now occasion
  rcases hpost : x.post lead buyer service now with ⟨p, label, y⟩
  rw [hpost] at hposted
  rw [← hposted]
  simp only [deliver, hpost]
  rfl

/-! ### Auctions -/

theorem cascade_posted (x : Exchange (Recorded ω)) (occasion : Occasion (Recorded ω)) (lead : Lead)
    (id : AuctionId) (now : Instant) (ranked : List Bid) :
    (x.cascade lead id now ranked).2.2.posted =
      x.posted ++ (x.cascadeOffers occasion lead id now ranked).map callOf := by
  induction ranked generalizing x with
  | nil => simp [cascade, cascadeOffers]
  | cons bid rest ih =>
    have hpause : x.interlude.posted = x.posted := rfl
    rcases hoffer : x.interlude.offer? bid.buyerId lead with _ | ⟨buyer, service⟩
    · simp only [cascade, cascadeOffers, hoffer, ih]
      rfl
    · have hdeliver := x.interlude.deliver_posted lead buyer service (.ofAuction id bid.amount) now
        occasion
      rcases hpost : x.interlude.deliver lead buyer service (.ofAuction id bid.amount) now
        with ⟨p, y⟩
      rw [hpost, hpause] at hdeliver
      simp only [cascade, cascadeOffers, hoffer, hpost]
      rw [List.map_append, ← List.append_assoc, ← hdeliver]
      by_cases hsuccess : p.success = true
      · simp only [if_pos hsuccess, List.map_nil, List.append_nil]
      · simp only [if_neg hsuccess, ih y]

omit [Transport ω] in
theorem settle_posted (x : Exchange (Recorded ω)) (facts : Json) {f : Flying (Recorded ω)}
    (h : Quiet f.flight) : (Board.settle x facts f).2.posted = x.posted := by
  have harrive := x.arrive_posted h
  unfold Board.settle
  dsimp only
  split
  · rfl
  split
  · exact harrive
  · exact (vocabulary_surroundings _ _).posted.trans harrive

/-- Whether all calls on their way leave the record alone. -/
def QuietBoard (b : Board (Recorded ω)) : Prop := ∀ f ∈ b.flying, Quiet f.flight

omit [Transport ω] in
theorem QuietBoard.of_mem {b : Board (Recorded ω)} {f g : Flying (Recorded ω)}
    {others : List (Flying (Recorded ω))} (h : QuietBoard b) (hf : b.flying.Perm (f :: others))
    (hg : g ∈ f :: others) : Quiet g.flight :=
  h g (hf.mem_iff.mpr hg)

theorem quietBoard_start (x : Exchange (Recorded ω)) (lead : Lead) (ps : List Participant)
    (now : Instant) : QuietBoard (x.board lead ps now 0) := by
  intro f hf
  rw [(x.board_started lead ps now).flying] at hf
  cases hf

theorem QuietBoard.next {b b' : Board (Recorded ω)} {facts : Json} (h : QuietBoard b)
    (hn : b.next? facts = some b') : QuietBoard b' := by
  rcases Board.next?_cases hn with ⟨w, rest, hw, rfl⟩ | ⟨f, others, hf, rfl⟩
  · intro f hf
    rcases List.mem_append.mp hf with hf | hf
    · exact h f hf
    · cases List.mem_singleton.mp hf
      exact quiet_send _ _
  · exact fun g hg => h.of_mem hf (List.mem_cons_of_mem f hg)

/-- The PINGs of an auction are no POSTs. -/
theorem pingAll_posted (x : Exchange (Recorded ω)) (lead : Lead) (ps : List Participant)
    (now : Instant) : (x.pingAll lead ps now).2.posted = x.posted := by
  -- Up to the arrival of an answer others may act, and what they do is not on record.
  let Silent (b : Board (Recorded ω)) : Prop := b.exchange.posted = x.posted ∧ QuietBoard b
  have hstart : Silent (x.board lead ps now 0) := by
    obtain ⟨monitor, interrupted, hx⟩ := (x.board_started lead ps now).exchange
    exact ⟨by rw [hx]; rfl, x.quietBoard_start lead ps now⟩
  have hstep (b b' : Board (Recorded ω)) (hb : Silent b)
      (hn : b.next? (.object (lead.facts now)) = some b') : Silent b' := by
    obtain ⟨hposted, hquiet⟩ := hb
    refine ⟨?_, hquiet.next hn⟩
    rcases Board.next?_cases hn with ⟨w, rest, hw, rfl⟩ | ⟨f, others, hf, rfl⟩
    · have hlaunch := b.exchange.launch_posted
        (request .ping w.participant.buyer w.participant.service w.body)
      rw [if_neg (by simp [request]), List.append_nil, hposted] at hlaunch
      exact hlaunch
    · exact (settle_posted b.exchange _ (hquiet.of_mem hf List.mem_cons_self)).trans hposted
  exact (board_induction hstart (fun b b' _ => hstep b b') (2 * ps.length)).1

theorem sell_posted (x : Exchange (Recorded ω)) (occasion : Occasion (Recorded ω)) (lead : Lead)
    (id : AuctionId) (n : Nat) (bids ranked : List Bid) (now : Instant) :
    (x.sell lead id n bids ranked now).2.posted =
      x.posted ++ (x.cascadeOffers occasion lead id now ranked).map callOf := by
  rw [← cascade_posted]
  rcases hcascade : x.cascade lead id now ranked with ⟨posts, _ | s, y⟩
  · simp only [sell, hcascade]
    have hretry := y.interlude.scheduleRetry_surroundings lead id ranked posts now
    exact hretry.posted.trans (rfl : y.interlude.posted = y.posted)
  · simp only [sell, hcascade]

theorem auctionAmong_posted (x : Exchange (Recorded ω)) (occasion : Occasion (Recorded ω))
    (lead : Lead) (id : AuctionId) (ps : List Participant) (now : Instant) :
    (x.auctionAmong lead id ps now).2.posted =
      x.posted ++ ((x.pingAll lead ps now).2.cascadeOffers occasion lead id now
        (Bid.ranking ((x.pingAll lead ps now).1.map (·.bid)))).map callOf := by
  have hpings := x.pingAll_posted lead ps now
  rcases hall : x.pingAll lead ps now with ⟨results, y⟩
  rw [hall] at hpings
  simp only [auctionAmong, hall]
  rw [(recordPings_surroundings ..).posted, ← hpings]
  split
  · rename_i hnone
    rw [List.isEmpty_iff.mp hnone, cascadeOffers, List.map_nil, List.append_nil]
  · exact sell_posted ..

theorem runAuction_posted (x : Exchange (Recorded ω)) (lead : Lead) (now : Instant) :
    (x.runAuction lead now).2.posted = x.posted ++ (x.auctionOffers lead now).map callOf := by
  have hparticipants : x.countAuction.participants lead = x.participants lead := rfl
  rcases hcheck : lead.check with e | ⟨⟩
  · simp only [runAuction, auctionOffers, hcheck, List.map_nil, List.append_nil]
    rfl
  simp only [runAuction, auctionOffers, hcheck, hparticipants, pings]
  split
  · rename_i hnone
    simp only [hnone, pingAll, Board.start, List.length_nil, Board.run, List.map_nil,
      Bid.ranking_nil, cascadeOffers, List.append_nil]
    rfl
  · exact auctionAmong_posted ..

/-! ### Sweeps -/

theorem attempt_posted (x : Exchange (Recorded ω)) (item : RetryItem) (buyer : Buyer)
    (service : Service) (now clock : Instant) :
    (x.attempt item buyer service now clock).2.posted = x.posted ++
      ((x.countRetry item.origin).deliverOffers item.lead buyer service clock
        (.retry item)).map callOf := by
  rw [← (x.countRetry_surroundings item.origin).posted, ← deliver_posted]
  exact (place_surroundings ..).posted

theorem sweepKey_posted (x : Exchange (Recorded ω)) (report : SweepReport) (key : RetryKey)
    (now clock : Instant) :
    (x.sweepKey report key now clock).2.posted =
      x.posted ++ (x.itemOffers key clock).map callOf := by
  rcases hitem : x.backlog.get? key with _ | item
  · simp only [sweepKey, itemOffers, hitem, List.map_nil, List.append_nil]
  simp only [sweepKey, itemOffers, treat, hitem]
  rcases hbuyer : x.registry.get? item.buyerId with _ | buyer
  · simp only [List.map_nil, List.append_nil]
    rfl
  rcases hservice : buyer.serviceFor? item.lead with _ | service
  · simp only [hservice, List.map_nil, List.append_nil]
    rfl
  simp only [hservice]
  split
  · exact attempt_posted ..
  · rw [List.map_nil, List.append_nil]
    rfl

theorem sweepKeys_posted (x : Exchange (Recorded ω)) (report : SweepReport) (now clock : Instant)
    (keys : List RetryKey) : (x.sweepKeys report now clock keys).2.posted =
      x.posted ++ (x.sweepOffers now clock keys).map callOf := by
  induction keys generalizing x report with
  | nil => simp [sweepKeys, sweepOffers]
  | cons key keys ih =>
    rw [sweepKeys, ih, sweepKey_exchange, sweepKey_posted, sweepOffers, List.map_append,
      ← List.append_assoc]
    rfl

/-! ### Runs -/

theorem step_posted (x : Exchange (Recorded ω)) (e : Event ω) :
    (x.step e.recorded).posted = x.posted ++ (x.stepOffers e.recorded).map callOf := by
  cases e with
  | auction lead now => exact x.runAuction_posted lead now
  | request lead now =>
    rcases hcheck : lead.check with e | ⟨⟩
    · simp [Event.recorded, step, stepOffers, requestAuction, auctionOffers, hcheck]
    · have hrun := x.runAuction_posted lead now
      simpa only [Event.recorded, step, stepOffers, requestAuction, hcheck] using hrun
  | sweep now clock => exact x.sweepKeys_posted .empty now clock _
  | sweepItem key now clock => exact x.sweepKey_posted .empty key now clock
  | upsert buyerId buyer =>
    simp only [Event.recorded, step, stepOffers, List.map_nil, List.append_nil, upsertBuyer]
    split
    · rfl
    split <;> rfl
  | webhook buyerId signature timestamp body now =>
    simp only [Event.recorded, step, stepOffers, List.map_nil, List.append_nil, receiveWebhook]
    split
    · rfl
    · exact (x.vocabulary_surroundings buyerId).posted
  | preview buyerId kind lead now =>
    simp only [Event.recorded, step, stepOffers, List.map_nil, List.append_nil, preview]
    split
    · rfl
    split
    · rfl
    · exact (payload_surroundings ..).posted
  | others act => simp [Event.recorded, step, stepOffers, posted, Recorded.lift]

/-- **No POST goes to a buyer who may not be offered the lead, and none in an auction without a
bid.** In every run the POSTs handed to the transport are the offers, and each of them is permitted
at that moment and earned. -/
theorem run_posted (x : Exchange (Recorded ω)) (events : List (Event ω)) :
    (x.run (events.map Event.recorded)).posted =
        x.posted ++ (x.offers (events.map Event.recorded)).map callOf ∧
      ∀ o ∈ x.offers (events.map Event.recorded),
        (∃ buyer service, o.Permitted buyer service) ∧ o.Earned := by
  refine ⟨?_, fun o ho => earned_of_mem_offers ho⟩
  induction events generalizing x with
  | nil => simp [run, offers]
  | cons e events ih =>
    rw [List.map_cons, run, ih, step_posted, offers, List.map_append, List.append_assoc]

end Exchange

end PingPost
