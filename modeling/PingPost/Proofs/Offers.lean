import PingPost.Exchange.Run
import PingPost.Proofs.Answers
import PingPost.Proofs.Auction

/-!
To whom a lead is offered.

`Exchange.offers` follows a run of an exchange and lists the POSTs that are handed to the transport,
each with the exchange at that moment. Every offer is permitted (`Offer.Permitted`): the buyer may
be offered the lead by the registry of that moment, and may be called. And every offer is earned
(`Offer.Earned`): in an auction by a bid that the buyer's PING brought there.
-/

namespace PingPost

open Exchange

/-! ### Who may be offered a lead -/

/-- Whether a lead meets the restrictions of a service. -/
structure Restrictions.Met (r : Restrictions) (lead : Lead) : Prop where
  zip : r.zipPrefixes = [] ∨
    ∃ p ∈ r.zipPrefixes, (Text.trim p).toList <+: (Text.trim lead.zipCode).toList
  trustedForm : r.trustedForm = true → ∃ c ∈ lead.compliance, c.hasTrustedForm = true
  jornaya : r.jornaya = true → ∃ c ∈ lead.compliance, c.hasJornaya = true
  consent : r.consent = true → ∃ c ∈ lead.compliance, c.consent = true

theorem Restrictions.admit_iff {r : Restrictions} {lead : Lead} :
    r.admit lead = true ↔ r.Met lead := by
  have hneeded {needed : Bool} {has : Compliance → Bool} :
      (!needed || lead.compliance.any has) = true ↔
        (needed = true → ∃ c ∈ lead.compliance, has c = true) := by
    cases needed <;> simp [Option.any_eq_true]
  simp only [hneeded, Restrictions.admit, Text.startsWith, Bool.and_eq_true, Bool.or_eq_true,
    List.isEmpty_iff, List.any_eq_true, List.isPrefixOf_iff_prefix]
  exact ⟨fun ⟨⟨⟨hzip, htrusted⟩, hjornaya⟩, hconsent⟩ => ⟨hzip, htrusted, hjornaya, hconsent⟩,
    fun ⟨hzip, htrusted, hjornaya, hconsent⟩ => ⟨⟨⟨hzip, htrusted⟩, hjornaya⟩, hconsent⟩⟩

theorem Buyer.serviceFor?_eq_some_iff {b : Buyer} {lead : Lead} {s : Service} :
    b.serviceFor? lead = some s ↔ b.active = true ∧ b.service? lead.serviceType = some s ∧
      s.active = true ∧ ∀ r ∈ s.restrictions, r.Met lead := by
  have hall : (s.restrictions.all fun r => r.admit lead) = true ↔
      ∀ r ∈ s.restrictions, r.Met lead := by
    cases s.restrictions <;> simp [Restrictions.admit_iff]
  unfold serviceFor?
  split
  · rename_i hactive
    simp [Option.filter_eq_some_iff, hall, hactive]
  · simp_all

/-! ### What leaves the registry and the world alone -/

variable {ω : Type}

namespace Exchange

/-- Whether two exchanges have the same registry and the same world. -/
structure SameSurroundings (x y : Exchange ω) : Prop where
  registry : y.registry = x.registry
  world : y.world = x.world

theorem vocabulary_surroundings (x : Exchange ω) (buyerId : String) :
    x.SameSurroundings (x.vocabulary buyerId).2 := by
  unfold vocabulary
  split <;> exact ⟨rfl, rfl⟩

theorem payload_surroundings (x : Exchange ω) (kind : CallKind) (lead : Lead) (buyer : Buyer)
    (service : Service) (now : Instant) :
    x.SameSurroundings (x.payload kind lead buyer service now).2 := by
  unfold payload notePayload
  dsimp only
  split <;> exact ⟨rfl, rfl⟩

theorem countRetry_surroundings (x : Exchange ω) (origin : Option Nat) :
    x.SameSurroundings (x.countRetry origin) := by
  unfold countRetry
  split <;> exact ⟨rfl, rfl⟩

theorem place_surroundings (x : Exchange ω) (item : RetryItem) (p : PostResult) (now : Instant) :
    x.SameSurroundings (x.place item p now).2 := by
  unfold place placeFailed
  split
  · exact ⟨rfl, rfl⟩
  · exact ⟨rfl, rfl⟩
  · exact ⟨rfl, rfl⟩
  · split <;> exact ⟨rfl, rfl⟩

theorem scheduleRetry_surroundings (x : Exchange ω) (lead : Lead) (id : AuctionId)
    (ranked : List Bid) (posts : List PostResult) (now : Instant) :
    x.SameSurroundings (x.scheduleRetry lead id ranked posts now).2 := by
  unfold scheduleRetry
  split
  · exact ⟨rfl, rfl⟩
  split
  · unfold enqueue
    split <;> exact ⟨rfl, rfl⟩
  · split <;> exact ⟨rfl, rfl⟩

theorem recordPings_surroundings (x : Exchange ω) (id : AuctionId) (lead : Lead)
    (pings : List PingResult) (winner : Option String) :
    x.SameSurroundings (x.recordPings id lead pings winner) := by
  unfold recordPings
  induction pings generalizing x with
  | nil => exact ⟨rfl, rfl⟩
  | cons r pings ih =>
    obtain ⟨hregistry, hworld⟩ := ih (x.record (r.toEntry id lead.id winner))
    exact ⟨hregistry, hworld⟩

end Exchange

/-! ### Offers -/

variable [Transport ω]

/-- On what occasion a lead is offered: in an auction that starts from an exchange, or again, for an
item of the backlog. -/
inductive Occasion (ω : Type) where
  | auction (start : Exchange ω) (now : Instant)
  | retry (item : RetryItem)

/-- A POST at the moment when it is handed to the transport. -/
structure Offer (ω : Type) where
  exchange : Exchange ω
  lead : Lead
  request : Request
  occasion : Occasion ω

/-- Whether a buyer may be offered the lead, under a service, when the POST is handed over. -/
structure Offer.Permitted (o : Offer ω) (buyer : Buyer) (service : Service) : Prop where
  registered : o.exchange.registry.get? o.request.buyerId = some buyer
  active : buyer.active = true
  serves : buyer.service? o.lead.serviceType = some service
  serviceActive : service.active = true
  restrictions : ∀ r ∈ service.restrictions, r.Met o.lead
  available : o.exchange.isAvailable o.request.buyerId = true
  request : ∃ body, o.request = Exchange.request .post buyer service body

namespace Exchange

/-- The POST of a delivery; there is none if the payload cannot be made. -/
def deliverOffers (x : Exchange ω) (lead : Lead) (buyer : Buyer) (service : Service)
    (now : Instant) (occasion : Occasion ω) : List (Offer ω) :=
  match x.payload .post lead buyer service now with
  | (.error _, _) => []
  | (.ok body, x) => [⟨x, lead, request .post buyer service body, occasion⟩]

/-- The POSTs of a cascade. -/
def cascadeOffers (x : Exchange ω) (occasion : Occasion ω) (lead : Lead) (id : AuctionId)
    (now : Instant) : List Bid → List (Offer ω)
  | [] => []
  | bid :: rest =>
    let x := x.interlude
    match x.offer? bid.buyerId lead with
    | none => (x.record (skippedEntry id lead.id bid)).cascadeOffers occasion lead id now rest
    | some (buyer, service) =>
      let (p, y) := x.deliver lead buyer service (.ofAuction id bid.amount) now
      x.deliverOffers lead buyer service now occasion ++
        if p.success then [] else y.cascadeOffers occasion lead id now rest

/-- The POSTs of an auction. -/
def auctionOffers (x : Exchange ω) (lead : Lead) (now : Instant) : List (Offer ω) :=
  match lead.check with
  | .error _ => []
  | .ok () => (x.pings lead now).2.cascadeOffers (.auction x now) lead (.issued x.auctions) now
    (Bid.ranking ((x.pings lead now).1.map (·.bid)))

/-- The POST for the item of a key. -/
def itemOffers (x : Exchange ω) (key : RetryKey) (clock : Instant) : List (Offer ω) :=
  match x.backlog.get? key with
  | none => []
  | some item =>
    let x := { x with backlog := x.backlog.erase key }
    match x.registry.get? item.buyerId with
    | none => []
    | some buyer =>
      match buyer.serviceFor? item.lead with
      | none => []
      | some service =>
        if x.isAvailable buyer.id then
          (x.countRetry item.origin).deliverOffers item.lead buyer service clock (.retry item)
        else []

/-- The POSTs of a sweep. -/
def sweepOffers (x : Exchange ω) (now clock : Instant) : List RetryKey → List (Offer ω)
  | [] => []
  | key :: keys => x.interlude.itemOffers key clock ++
    (x.interlude.sweepKey .empty key now clock).2.sweepOffers now clock keys

/-- The POSTs of a step. -/
def stepOffers (x : Exchange ω) : Event ω → List (Offer ω)
  | .auction lead now | .request lead now => x.auctionOffers lead now
  | .sweep now clock => x.sweepOffers now clock (x.backlog.dueKeys now)
  | .sweepItem key _ clock => x.itemOffers key clock
  | _ => []

/-- The POSTs of a run. -/
def offers (x : Exchange ω) : List (Event ω) → List (Offer ω)
  | [] => []
  | e :: events => x.stepOffers e ++ (x.step e).offers events

/-! ### Every offer is permitted -/

/-- Whether an offer of a lead is permitted to some buyer, and made on an occasion. -/
structure Made (lead : Lead) (occasion : Occasion ω) (o : Offer ω) : Prop where
  permitted : ∃ buyer service, o.Permitted buyer service
  lead : o.lead = lead
  occasion : o.occasion = occasion

section

variable {x : Exchange ω} {lead : Lead} {buyer : Buyer} {service : Service} {now clock : Instant}
  {occasion : Occasion ω} {o : Offer ω}

/-- A POST goes out at once when it is found that the buyer may be offered the lead. -/
theorem made_of_mem_deliverOffers (hget : x.registry.get? buyer.id = some buyer)
    (hservice : buyer.serviceFor? lead = some service) (havailable : x.isAvailable buyer.id = true)
    (ho : o ∈ x.deliverOffers lead buyer service now occasion) :
    Made lead occasion o ∧ o.request.buyerId = buyer.id := by
  obtain ⟨hactive, hserves, hserviceActive, hmet⟩ := Buyer.serviceFor?_eq_some_iff.mp hservice
  have hframe := x.payload_surroundings .post lead buyer service now
  unfold deliverOffers at ho
  split at ho
  · cases ho
  · rename_i body y heq
    rw [heq] at hframe
    cases List.mem_singleton.mp ho
    have havailable' : y.isAvailable buyer.id = true := by
      rw [← havailable, isAvailable, isAvailable, hframe.world]
    exact ⟨⟨⟨buyer, service, hframe.registry.symm ▸ hget, hactive, hserves, hserviceActive, hmet,
      havailable', body, rfl⟩, rfl, rfl⟩, rfl⟩

theorem made_of_mem_cascadeOffers {id : AuctionId} {ranked : List Bid}
    (ho : o ∈ x.cascadeOffers occasion lead id now ranked) :
    Made lead occasion o ∧ o.request.buyerId ∈ ranked.map (·.buyerId) := by
  induction ranked generalizing x with
  | nil => cases ho
  | cons bid rest ih =>
    simp only [cascadeOffers] at ho
    split at ho
    · exact ⟨(ih ho).1, List.mem_cons_of_mem _ (ih ho).2⟩
    rename_i buyer service hoffer
    rcases List.mem_append.mp ho with ho | ho
    · have hid := id_of_offer? hoffer
      unfold offer? at hoffer
      split at hoffer
      · rename_i havailable
        simp only [Registry.standing?, Option.bind_eq_some_iff, Option.map_eq_some_iff,
          Prod.mk.injEq] at hoffer
        obtain ⟨b, hget, s, hservice, rfl, rfl⟩ := hoffer
        rw [← hid] at hget havailable
        obtain ⟨hmade, hbuyer⟩ := made_of_mem_deliverOffers hget hservice havailable ho
        exact ⟨hmade, hbuyer.trans hid ▸ List.mem_cons_self⟩
      · cases hoffer
    · split at ho
      · cases ho
      · exact ⟨(ih ho).1, List.mem_cons_of_mem _ (ih ho).2⟩

/-- The item's own buyer is offered its lead. -/
theorem made_of_mem_itemOffers {key : RetryKey} (ho : o ∈ x.itemOffers key clock) :
    ∃ item, x.backlog.get? key = some item ∧ Made item.lead (.retry item) o ∧
      o.request.buyerId = item.buyerId := by
  unfold itemOffers at ho
  split at ho
  · cases ho
  rename_i item hitem
  dsimp only at ho
  split at ho
  · cases ho
  rename_i buyer hget
  split at ho
  · cases ho
  rename_i service hservice
  split at ho
  · rename_i havailable
    have hid := Registry.id_of_get? hget
    have hcount := countRetry_surroundings { x with backlog := x.backlog.erase key } item.origin
    -- Counting the retry comes between the check and the POST.
    rw [← hid] at hget
    obtain ⟨hmade, hbuyer⟩ := made_of_mem_deliverOffers
      (by rw [hcount.registry]; exact hget) hservice
      (by rw [← havailable, isAvailable, isAvailable, hcount.world]) ho
    exact ⟨item, hitem, hmade, hbuyer.trans hid⟩
  · cases ho

/-! ### Every offer is earned -/

/-- Whether a buyer earned an offer in an auction: its PING brought a bid, and no PING of a buyer of
that id brought none. -/
structure EarnedIn (x : Exchange ω) (lead : Lead) (now : Instant) (buyerId : String) : Prop where
  brought : ∃ p r, (p, r) ∈ (x.participants lead).zip (x.pings lead now).1 ∧
    p.buyer.id = buyerId ∧ BringsBid x.countAuction lead (x.participants lead) now p r
  never : ∀ p r, (p, r) ∈ (x.participants lead).zip (x.pings lead now).1 →
    BringsNone x.countAuction lead (x.participants lead) now p r → p.buyer.id ≠ buyerId

/-- A bidder of the ranking earned an offer: it has one PING, and that brought the bid. -/
theorem earnedIn_of_mem_ranking {bid : Bid}
    (hbid : bid ∈ Bid.ranking ((x.pings lead now).1.map (·.bid))) :
    EarnedIn x lead now bid.buyerId := by
  have hbrings : List.Forall₂ _ (x.participants lead) (x.pings lead now).1 :=
    x.countAuction.pingAll_brings lead (x.participants lead) now
  have hanswers := x.pings_answers lead now
  obtain ⟨hmem, husable⟩ := Bid.mem_ranking.mp hbid
  obtain ⟨r, hr, rfl⟩ := List.mem_map.mp hmem
  have hsuccess : r.bid.success = true := by
    by_contra hfailed
    simp [Bid.usable?, hfailed] at husable
  -- Buyers are asked once each, so the bidder's id leads to one PING.
  have hids : (((x.participants lead).zip (x.pings lead now).1).map (·.1.buyer.id)).Nodup := by
    have hfirst := List.map_fst_zip (Nat.le_of_eq hbrings.length_eq)
    have hnodup := x.participants_ids_nodup lead
    rw [← hfirst, List.map_map] at hnodup
    exact hnodup
  obtain ⟨p, hp⟩ : ∃ p, (p, r) ∈ (x.participants lead).zip (x.pings lead now).1 := by
    rw [← List.map_snd_zip (Nat.le_of_eq hbrings.length_eq.symm)] at hr
    obtain ⟨⟨p, r⟩, hpr, rfl⟩ := List.mem_map.mp hr
    exact ⟨p, hpr⟩
  have hid : r.bid.buyerId = p.buyer.id := (List.forall₂_zip hanswers hp).buyerId
  refine ⟨⟨p, r, hp, hid.symm, ?_⟩, fun q s hq hnone heq => ?_⟩
  · exact (List.forall₂_zip hbrings hp).resolve_right fun hnone => by
      simp [hnone.not_success] at hsuccess
  · cases List.inj_on_of_nodup_map hids hq hp (heq.trans hid)
    simp [hnone.not_success] at hsuccess

end

end Exchange

/-- Whether an offer is earned: in an auction by a bid, and for an item of the backlog by the
item, which is of that buyer and that lead. -/
def Offer.Earned (o : Offer ω) : Prop :=
  match o.occasion with
  | .auction x now => EarnedIn x o.lead now o.request.buyerId
  | .retry item => o.request.buyerId = item.buyerId ∧ o.lead = item.lead

namespace Exchange

theorem earned_of_mem_auctionOffers {x : Exchange ω} {lead : Lead} {now : Instant} {o : Offer ω}
    (ho : o ∈ x.auctionOffers lead now) :
    (∃ buyer service, o.Permitted buyer service) ∧ o.Earned := by
  unfold auctionOffers at ho
  split at ho
  · cases ho
  · obtain ⟨⟨hpermitted, hlead, hoccasion⟩, hranked⟩ := made_of_mem_cascadeOffers ho
    obtain ⟨bid, hbid, hbuyer⟩ := List.mem_map.mp hranked
    refine ⟨hpermitted, ?_⟩
    rw [Offer.Earned, hoccasion, hlead, ← hbuyer]
    exact earnedIn_of_mem_ranking hbid

theorem earned_of_mem_itemOffers {x : Exchange ω} {key : RetryKey} {clock : Instant} {o : Offer ω}
    (ho : o ∈ x.itemOffers key clock) :
    (∃ buyer service, o.Permitted buyer service) ∧ o.Earned := by
  obtain ⟨item, -, ⟨hpermitted, hlead, hoccasion⟩, hbuyer⟩ := made_of_mem_itemOffers ho
  rw [Offer.Earned, hoccasion]
  exact ⟨hpermitted, hbuyer, hlead⟩

theorem earned_of_mem_sweepOffers {x : Exchange ω} {now clock : Instant} {keys : List RetryKey}
    {o : Offer ω} (ho : o ∈ x.sweepOffers now clock keys) :
    (∃ buyer service, o.Permitted buyer service) ∧ o.Earned := by
  induction keys generalizing x with
  | nil => cases ho
  | cons key keys ih =>
    rcases List.mem_append.mp ho with ho | ho
    · exact earned_of_mem_itemOffers ho
    · exact ih ho

/-- Every offer of a run is permitted and earned. -/
theorem earned_of_mem_offers {x : Exchange ω} {events : List (Event ω)} {o : Offer ω}
    (ho : o ∈ x.offers events) : (∃ buyer service, o.Permitted buyer service) ∧ o.Earned := by
  induction events generalizing x with
  | nil => cases ho
  | cons e events ih =>
    rcases List.mem_append.mp ho with ho | ho
    · cases e with
      | auction lead now => exact earned_of_mem_auctionOffers ho
      | request lead now => exact earned_of_mem_auctionOffers ho
      | sweep now clock => exact earned_of_mem_sweepOffers ho
      | sweepItem key now clock => exact earned_of_mem_itemOffers ho
      | upsert | webhook | preview | others => cases ho
    · exact ih ho

end Exchange

end PingPost
