import PingPost.Proofs.BuyerSeparation
import PingPost.Proofs.Eligibility
import PingPost.Proofs.Sweep

/-!
Properties that last.

The operations of an exchange change the registry and the world by their calls and by what others
do meanwhile, remember a vocabulary where they look one up, and may break off where they make a
payload. A property that withstands each of these (`Exchange.Lasting`) therefore lasts through every
auction and every sweep, and whatever else may happen but a registration (`Exchange.Lasting.step`).
-/

namespace PingPost

variable {ω : Type}

/-- Whether an event is no registration, and harmless if it is an act of others. -/
def Event.Harmless (harmless : (Registry → ω → Registry × ω) → Prop) : Event ω → Prop
  | .upsert _ _ => False
  | .others act => harmless act
  | _ => True

namespace Exchange

/-- Whether two exchanges differ in the books and the monitor at most. -/
structure SameSetting (x y : Exchange ω) : Prop extends x.SameSurroundings y where
  engine : y.engine = x.engine
  vocabularies : y.vocabularies = x.vocabularies
  interrupted : y.interrupted = x.interrupted

/-- What a property must withstand: changes of the books, the lookup of a vocabulary, the making of
a payload for a registered buyer, all of whom must be fit, the start of a call, whose effect must be
harmless, and harmless acts of others. -/
structure Lasting [Transport ω] (harmless : (Registry → ω → Registry × ω) → Prop)
    (fit : Buyer → Prop) (P : Exchange ω → Prop) : Prop where
  congr {x y : Exchange ω} : P x → x.SameSetting y → P y
  vocabulary {x : Exchange ω} (buyerId : String) : P x → P (x.vocabulary buyerId).2
  registered {x : Exchange ω} {buyerId : String} {buyer : Buyer} :
    P x → x.registry.get? buyerId = some buyer → fit buyer
  payload {x : Exchange ω} {buyer : Buyer} {service : Service} (kind : CallKind) (lead : Lead)
    (now : Instant) :
    P x → fit buyer → service ∈ buyer.services → P (x.payload kind lead buyer service now).2
  launch {x : Exchange ω} (r : Request) : P x → harmless (x.launch r).1.effect ∧ P (x.launch r).2
  act {x : Exchange ω} {act : Registry → ω → Registry × ω} : harmless act → P x →
    P { x with registry := (act x.registry x.world).1, world := (act x.registry x.world).2 }
  meanwhile : harmless Transport.meanwhile

variable {harmless : (Registry → ω → Registry × ω) → Prop} {fit : Buyer → Prop}
  {P : Exchange ω → Prop} {x y : Exchange ω}

/-! ### The books -/

theorem payload_engine (x : Exchange ω) (kind : CallKind) (lead : Lead) (buyer : Buyer)
    (service : Service) (now : Instant) :
    (x.payload kind lead buyer service now).2.engine = x.engine := by
  unfold payload notePayload
  dsimp only
  split <;> rfl

theorem payload_vocabularies (x : Exchange ω) (kind : CallKind) (lead : Lead) (buyer : Buyer)
    (service : Service) (now : Instant) :
    (x.payload kind lead buyer service now).2.vocabularies = x.vocabularies := by
  unfold payload notePayload
  dsimp only
  split <;> rfl

theorem countRetry_setting (x : Exchange ω) (origin : Option Nat) :
    x.SameSetting (x.countRetry origin) := by
  refine ⟨x.countRetry_surroundings origin, ?_, ?_, ?_⟩ <;>
    unfold countRetry <;> split <;> rfl

theorem place_setting (x : Exchange ω) (item : RetryItem) (p : PostResult) (now : Instant) :
    x.SameSetting (x.place item p now).2 := by
  unfold place placeFailed
  split
  · exact ⟨⟨rfl, rfl⟩, rfl, rfl, rfl⟩
  · exact ⟨⟨rfl, rfl⟩, rfl, rfl, rfl⟩
  · exact ⟨⟨rfl, rfl⟩, rfl, rfl, rfl⟩
  · split <;> exact ⟨⟨rfl, rfl⟩, rfl, rfl, rfl⟩

theorem scheduleRetry_setting (x : Exchange ω) (lead : Lead) (id : AuctionId)
    (ranked : List Bid) (posts : List PostResult) (now : Instant) :
    x.SameSetting (x.scheduleRetry lead id ranked posts now).2 := by
  unfold scheduleRetry
  split
  · exact ⟨⟨rfl, rfl⟩, rfl, rfl, rfl⟩
  split
  · unfold enqueue
    split <;> exact ⟨⟨rfl, rfl⟩, rfl, rfl, rfl⟩
  · split <;> exact ⟨⟨rfl, rfl⟩, rfl, rfl, rfl⟩

theorem recordPings_setting (x : Exchange ω) (id : AuctionId) (lead : Lead)
    (pings : List PingResult) (winner : Option String) :
    x.SameSetting (x.recordPings id lead pings winner) := by
  unfold recordPings
  induction pings generalizing x with
  | nil => exact ⟨⟨rfl, rfl⟩, rfl, rfl, rfl⟩
  | cons r pings ih =>
    obtain ⟨⟨hregistry, hworld⟩, hengine, hvocabularies, hinterrupted⟩ :=
      ih (x.record (r.toEntry id lead.id winner))
    exact ⟨⟨hregistry, hworld⟩, hengine, hvocabularies, hinterrupted⟩

/-- A service under which a lead may be offered to a buyer is one of the buyer's. -/
theorem mem_services_of_serviceFor? {buyer : Buyer} {service : Service} {lead : Lead}
    (h : buyer.serviceFor? lead = some service) : service ∈ buyer.services :=
  List.mem_of_find?_eq_some (Buyer.serviceFor?_eq_some_iff.mp h).2.1

variable [Transport ω]

/-- Who is offered a lead is registered, and offered it under a service of theirs. -/
theorem get?_of_offer? {buyerId : String} {lead : Lead} {buyer : Buyer} {service : Service}
    (h : x.offer? buyerId lead = some (buyer, service)) :
    x.registry.get? buyerId = some buyer ∧ service ∈ buyer.services := by
  unfold offer? at h
  split at h
  · simp only [Registry.standing?, Option.bind_eq_some_iff, Option.map_eq_some_iff,
      Prod.mk.injEq] at h
    obtain ⟨b, hget, s, hservice, rfl, rfl⟩ := h
    exact ⟨hget, mem_services_of_serviceFor? hservice⟩
  · cases h

namespace Lasting

theorem recordPings (hP : Lasting harmless fit P) (h : P x) (id : AuctionId) (lead : Lead)
    (pings : List PingResult) (winner : Option String) : P (x.recordPings id lead pings winner) :=
  hP.congr h (recordPings_setting ..)

/-! ### Deliveries -/

theorem arrive (hP : Lasting harmless fit P) (h : P x) {flight : Flight ω}
    (hflight : harmless flight.effect) : P (x.arrive flight) :=
  hP.act hflight h

theorem interlude (hP : Lasting harmless fit P) (h : P x) : P x.interlude :=
  hP.act hP.meanwhile h

theorem call (hP : Lasting harmless fit P) (h : P x) (r : Request) : P (x.call r).2.2 := by
  obtain ⟨hflight, hlaunch⟩ := hP.launch r h
  simp only [Exchange.call]
  split
  · exact hP.arrive hlaunch hflight
  · exact hlaunch

variable {buyer : Buyer} {service : Service}

theorem post (hP : Lasting harmless fit P) (h : P x) (lead : Lead) (hbuyer : fit buyer)
    (hservice : service ∈ buyer.services) (now : Instant) :
    P (x.post lead buyer service now).2.2 := by
  have hpayload := hP.payload .post lead now h hbuyer hservice
  unfold Exchange.post
  split
  · rename_i e y heq
    rwa [heq] at hpayload
  · rename_i body y heq
    rw [heq] at hpayload
    have hcall := hP.call hpayload (request .post buyer service body)
    split
    · rename_i e elapsed z heq'
      rwa [heq'] at hcall
    · rename_i reply elapsed z heq'
      rw [heq'] at hcall
      exact hP.vocabulary buyer.id hcall

theorem deliver (hP : Lasting harmless fit P) (h : P x) (lead : Lead) (hbuyer : fit buyer)
    (hservice : service ∈ buyer.services) (context : DeliveryContext) (now : Instant) :
    P (x.deliver lead buyer service context now).2 := by
  have hposted := hP.post h lead hbuyer hservice now
  rcases hpost : x.post lead buyer service now with ⟨p, label, y⟩
  rw [hpost] at hposted
  simp only [Exchange.deliver, hpost]
  exact hP.congr hposted ⟨⟨rfl, rfl⟩, rfl, rfl, rfl⟩

theorem cascade (hP : Lasting harmless fit P) (h : P x) (lead : Lead) (id : AuctionId)
    (now : Instant) (ranked : List Bid) : P (x.cascade lead id now ranked).2.2 := by
  induction ranked generalizing x with
  | nil => exact h
  | cons bid rest ih =>
    have hpause := hP.interlude h
    rcases hoffer : x.interlude.offer? bid.buyerId lead with _ | ⟨buyer, service⟩
    · simp only [Exchange.cascade, hoffer]
      exact ih (hP.congr hpause ⟨⟨rfl, rfl⟩, rfl, rfl, rfl⟩)
    · obtain ⟨hget, hservice⟩ := get?_of_offer? hoffer
      have hdeliver := hP.deliver hpause lead (hP.registered hpause hget) hservice
        (.ofAuction id bid.amount) now
      rcases hpost : x.interlude.deliver lead buyer service (.ofAuction id bid.amount) now
        with ⟨p, y⟩
      rw [hpost] at hdeliver
      simp only [Exchange.cascade, hoffer, hpost]
      split
      · exact hdeliver
      · exact ih hdeliver

/-! ### Auctions -/

theorem settle (hP : Lasting harmless fit P) (h : P x) (facts : Json) {f : Flying ω}
    (hflight : harmless f.flight.effect) : P (Board.settle x facts f).2 := by
  unfold Board.settle
  dsimp only
  split
  · exact h
  split
  · exact hP.arrive h hflight
  · exact hP.vocabulary _ (hP.arrive h hflight)

/-- What holds when the payloads of the PINGs are made holds when all PINGs are done. -/
theorem pingAll_of_start (hP : Lasting harmless fit P) {lead : Lead} {ps : List Participant}
    {now : Instant} (h : P (x.board lead ps now 0).exchange) : P (x.pingAll lead ps now).2 := by
  -- The effects of the calls that are still on their way are harmless, too.
  let Kept (b : Board ω) : Prop := P b.exchange ∧ ∀ f ∈ b.flying, harmless f.flight.effect
  have hstart : Kept (x.board lead ps now 0) := ⟨h, by simp [(x.board_started lead ps now).flying]⟩
  have hstep (b b' : Board ω) (hb : Kept b)
      (hn : b.next? (.object (lead.facts now)) = some b') : Kept b' := by
    rcases Board.next?_cases hn with ⟨w, rest, hw, rfl⟩ | ⟨f, others, hf, rfl⟩
    · obtain ⟨hflight, hlaunch⟩ :=
        hP.launch (request .ping w.participant.buyer w.participant.service w.body) hb.1
      refine ⟨hlaunch, fun f hf => ?_⟩
      rcases List.mem_append.mp hf with hf | hf
      · exact hb.2 f hf
      · cases List.mem_singleton.mp hf
        exact hflight
    · have hflying (g : Flying ω) (hg : g ∈ f :: others) := hb.2 g (hf.mem_iff.mpr hg)
      exact ⟨hP.congr (hP.settle hb.1 _ (hflying f List.mem_cons_self)) ⟨⟨rfl, rfl⟩, rfl, rfl, rfl⟩,
        fun g hg => hflying g (List.mem_cons_of_mem f hg)⟩
  exact (board_induction hstart (fun b b' _ => hstep b b') (2 * ps.length)).1

theorem pingAll (hP : Lasting harmless fit P) (h : P x) (lead : Lead) {ps : List Participant}
    (hps : ∀ p ∈ ps, fit p.buyer ∧ p.service ∈ p.buyer.services) (now : Instant) :
    P (x.pingAll lead ps now).2 := by
  have hpayload : ∀ p ∈ ps, ∀ x : Exchange ω, P x →
      P (x.payload .ping lead p.buyer p.service now).2 := fun p hp _ hx =>
    hP.payload .ping lead now hx (hps p hp).1 (hps p hp).2
  exact hP.pingAll_of_start (Board.start_induction hpayload h 0)

theorem sell (hP : Lasting harmless fit P) (h : P x) (lead : Lead) (id : AuctionId) (n : Nat)
    (bids ranked : List Bid) (now : Instant) : P (x.sell lead id n bids ranked now).2 := by
  have hcascade := hP.cascade h lead id now ranked
  rcases hcourse : x.cascade lead id now ranked with ⟨posts, _ | s, y⟩
  · rw [hcourse] at hcascade
    simp only [Exchange.sell, hcourse]
    exact hP.congr (hP.interlude hcascade) (scheduleRetry_setting ..)
  · rw [hcourse] at hcascade
    simp only [Exchange.sell, hcourse]
    exact hcascade

/-- Those who are asked are registered, and asked under a service of theirs. -/
theorem participants (hP : Lasting harmless fit P) (h : P x) (lead : Lead) :
    ∀ p ∈ x.participants lead, fit p.buyer ∧ p.service ∈ p.buyer.services := by
  intro p hp
  obtain ⟨buyer, hbuyer, hp⟩ := List.mem_filterMap.mp hp
  split at hp
  · obtain ⟨service, hservice, rfl⟩ := Option.map_eq_some_iff.mp hp
    exact ⟨hP.registered h (Registry.mem_eligible.mp hbuyer).1,
      mem_services_of_serviceFor? hservice⟩
  · cases hp

/-- What holds when all PINGs are done holds after the sale. -/
theorem auctionAmong_of_pings (hP : Lasting harmless fit P) {lead : Lead} {ps : List Participant}
    {now : Instant} (h : P (x.pingAll lead ps now).2) (id : AuctionId) :
    P (x.auctionAmong lead id ps now).2 := by
  rcases hall : x.pingAll lead ps now with ⟨results, y⟩
  rw [hall] at h
  simp only [Exchange.auctionAmong, hall]
  split
  · exact hP.recordPings h ..
  · exact hP.recordPings (hP.sell h ..) ..

theorem auctionAmong (hP : Lasting harmless fit P) (h : P x) (lead : Lead) (id : AuctionId)
    {ps : List Participant} (hps : ∀ p ∈ ps, fit p.buyer ∧ p.service ∈ p.buyer.services)
    (now : Instant) : P (x.auctionAmong lead id ps now).2 :=
  hP.auctionAmong_of_pings (hP.pingAll h lead hps now) id

theorem runAuction (hP : Lasting harmless fit P) (h : P x) (lead : Lead) (now : Instant) :
    P (x.runAuction lead now).2 := by
  have hcount : P x.countAuction := hP.congr h ⟨⟨rfl, rfl⟩, rfl, rfl, rfl⟩
  unfold Exchange.runAuction
  dsimp only
  split
  · exact hP.congr hcount ⟨⟨rfl, rfl⟩, rfl, rfl, rfl⟩
  split
  · exact hP.congr hcount ⟨⟨rfl, rfl⟩, rfl, rfl, rfl⟩
  · exact hP.congr (hP.auctionAmong hcount lead _ (hP.participants hcount lead) now)
      ⟨⟨rfl, rfl⟩, rfl, rfl, rfl⟩

/-! ### Sweeps -/

theorem attempt (hP : Lasting harmless fit P) (h : P x) (item : RetryItem) (hbuyer : fit buyer)
    (hservice : service ∈ buyer.services) (now clock : Instant) :
    P (x.attempt item buyer service now clock).2 :=
  hP.congr (hP.deliver (hP.congr h (countRetry_setting ..)) _ hbuyer hservice ..)
    (place_setting ..)

theorem sweepKey (hP : Lasting harmless fit P) (h : P x) (report : SweepReport) (key : RetryKey)
    (now clock : Instant) : P (x.sweepKey report key now clock).2 := by
  unfold Exchange.sweepKey
  split
  · exact h
  rename_i item hitem
  have htaken : P { x with backlog := x.backlog.erase key } :=
    hP.congr h ⟨⟨rfl, rfl⟩, rfl, rfl, rfl⟩
  simp only [treat]
  split
  · exact hP.congr htaken ⟨⟨rfl, rfl⟩, rfl, rfl, rfl⟩
  rename_i buyer hbuyer
  split
  · exact hP.congr htaken ⟨⟨rfl, rfl⟩, rfl, rfl, rfl⟩
  rename_i service hservice
  split
  · exact hP.attempt htaken item (hP.registered h hbuyer) (mem_services_of_serviceFor? hservice) ..
  · exact hP.congr htaken ⟨⟨rfl, rfl⟩, rfl, rfl, rfl⟩

theorem sweepKeys (hP : Lasting harmless fit P) (h : P x) (report : SweepReport)
    (now clock : Instant) (keys : List RetryKey) :
    P (x.sweepKeys report now clock keys).2 := by
  induction keys generalizing x report with
  | nil => exact h
  | cons key keys ih => exact ih (hP.sweepKey (hP.interlude h) ..) _

/-! ### Events -/

theorem receiveWebhook (hP : Lasting harmless fit P) (h : P x) (buyerId : String)
    (signature timestamp : Option String) (body : List UInt8) (now : Instant) :
    P (x.receiveWebhook buyerId signature timestamp body now).2 := by
  unfold Exchange.receiveWebhook
  split
  · exact h
  · exact hP.congr (hP.vocabulary buyerId h) ⟨⟨rfl, rfl⟩, rfl, rfl, rfl⟩

theorem preview (hP : Lasting harmless fit P) (h : P x) (buyerId : String) (kind : CallKind)
    (lead : Lead) (now : Instant) : P (x.preview buyerId kind lead now).2 := by
  unfold Exchange.preview
  split
  · exact h
  rename_i buyer hbuyer
  split
  · exact h
  · rename_i service hservice
    exact hP.payload kind lead now h (hP.registered h hbuyer) (List.mem_of_find?_eq_some hservice)

theorem step (hP : Lasting harmless fit P) (h : P x) (e : Event ω) (he : e.Harmless harmless) :
    P (x.step e) := by
  cases e with
  | auction lead now => exact hP.runAuction h lead now
  | request lead now =>
    simp only [Exchange.step, requestAuction]
    split
    · exact h
    · exact hP.runAuction h lead now
  | sweep now clock => exact hP.sweepKeys h ..
  | sweepItem key now clock => exact hP.sweepKey h ..
  | upsert buyerId buyer => exact he.elim
  | webhook buyerId signature timestamp body now => exact hP.receiveWebhook h ..
  | preview buyerId kind lead now => exact hP.preview h ..
  | others act => exact hP.act he h

end Lasting

end Exchange

end PingPost
