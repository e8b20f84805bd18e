import PingPost.Proofs.Auction
import PingPost.Proofs.Sample

/-!
What becomes of a lead that no bidder of a ranking takes.

The lead is handed over to the backlog (`HandedOver`). Unless the last buyer called it invalid, one
item is made of it: for the first bidder where a retry may succeed (`FirstRetriable`), or else for
the best one. The first kind is queued and the second given up, but a policy without attempts
makes `Exchange.enqueue` give up the first kind too.

The flag of the result is set where the first kind is made. So it says that the lead waits even
where the policy has had it given up (`Exchange.runAuction_retryScheduled`).
-/

namespace PingPost

open Exchange

variable {ω : Type}

/-! ### The bidders where a retry may succeed -/

/-- Whether an unsold lead may be offered again to a buyer: it is still registered and eligible,
and its POST failed or was never made. -/
structure Retriable (registry : Registry) (lead : Lead) (posts : List PostResult)
    (buyerId : String) : Prop where
  eligible : registry.isEligible buyerId lead = true
  failed : ∀ p ∈ posts, p.buyerId = buyerId → p.status = .failed

/-- The first bidder of a ranking to whom the lead may be offered again. -/
structure FirstRetriable (registry : Registry) (lead : Lead) (posts : List PostResult)
    (ranked : List Bid) (bid : Bid) : Prop where
  retriable : Retriable registry lead posts bid.buyerId
  first : ∃ front back, ranked = front ++ bid :: back ∧
    ∀ b ∈ front, ¬Retriable registry lead posts b.buyerId

/-- An item that was made of an auction's lead and a bid. -/
structure RetryItem.IsFor (item : RetryItem) (lead : Lead) (id : AuctionId) (bid : Bid) :
    Prop where
  lead : item.lead = lead
  auction : item.auction = some id
  buyerId : item.buyerId = bid.buyerId
  amount : item.bidAmount = bid.amount

theorem RetryItem.IsFor.key_eq {item : RetryItem} {lead : Lead} {id : AuctionId} {bid : Bid}
    (h : item.IsFor lead id bid) : item.key = ⟨lead.id, bid.buyerId⟩ := by
  rw [RetryItem.key, h.lead, h.buyerId]

namespace Exchange

variable {x : Exchange ω} {lead : Lead} {id : AuctionId} {posts : List PostResult}
  {now : Instant}

/-- Where no buyer has two POSTs, the first POST of a buyer is the only one. -/
theorem postOf?_any_eq_false (hposts : (posts.map (·.buyerId)).Nodup) {buyerId : String} :
    ((postOf? posts buyerId).any fun p => p.status ≠ .failed) = false ↔
      ∀ p ∈ posts, p.buyerId = buyerId → p.status = .failed := by
  cases hpost : postOf? posts buyerId with
  | none =>
    have hnone := List.find?_eq_none.mp hpost
    refine iff_of_true rfl fun p hp hbuyer => ?_
    exact (hnone p hp (by simpa using hbuyer)).elim
  | some q =>
    have hq := List.mem_of_find?_eq_some hpost
    have hqbuyer : q.buyerId = buyerId := by simpa using List.find?_some hpost
    simp only [Option.any_some, ne_eq, decide_not, Bool.not_eq_false', decide_eq_true_eq]
    refine ⟨fun hfailed p hp hbuyer => ?_, fun hall => hall q hq hqbuyer⟩
    rw [List.inj_on_of_nodup_map hposts hp hq (hbuyer.trans hqbuyer.symm), hfailed]

theorem retryAt?_eq_some (hposts : (posts.map (·.buyerId)).Nodup) {bid : Bid} {item : RetryItem}
    (h : x.retryAt? lead id posts now bid = some item) :
    Retriable x.registry lead posts bid.buyerId ∧
      ∃ buyer service, x.registry.standing? bid.buyerId lead = some (buyer, service) ∧
        item.IsFor lead id bid ∧ item.policy = service.endpoints.retryPolicy := by
  simp only [retryAt?] at h
  split at h
  · cases h
  · rename_i hpost
    obtain ⟨⟨buyer, service⟩, hstanding, rfl⟩ := Option.map_eq_some_iff.mp h
    refine ⟨⟨?_, (postOf?_any_eq_false hposts).mp (Bool.eq_false_iff.mpr hpost)⟩, buyer, service,
      hstanding, ⟨rfl, rfl, Registry.id_of_standing? hstanding, rfl⟩, rfl⟩
    rw [← Registry.isSome_standing?, hstanding]
    rfl

theorem retryAt?_eq_none (hposts : (posts.map (·.buyerId)).Nodup) {bid : Bid}
    (h : x.retryAt? lead id posts now bid = none) :
    ¬Retriable x.registry lead posts bid.buyerId := by
  rintro ⟨heligible, hfailed⟩
  simp only [retryAt?] at h
  rw [if_neg (Bool.eq_false_iff.mp ((postOf?_any_eq_false hposts).mpr hfailed)),
    Option.map_eq_none_iff] at h
  rw [← Registry.isSome_standing?, h] at heligible
  cases heligible

/-- The item of a candidate is made for the first bidder where a retry may succeed. -/
theorem retryCandidate?_eq_some (hposts : (posts.map (·.buyerId)).Nodup) {ranked : List Bid}
    {item : RetryItem} (h : x.retryCandidate? lead id posts now ranked = some item) :
    ∃ bid buyer service, FirstRetriable x.registry lead posts ranked bid ∧
      x.registry.standing? bid.buyerId lead = some (buyer, service) ∧
      item.IsFor lead id bid ∧ item.policy = service.endpoints.retryPolicy := by
  obtain ⟨front, bid, back, hranked, hbid, hfront⟩ := List.findSome?_eq_some_iff.mp h
  obtain ⟨hretriable, buyer, service, hstanding, hitem, hpolicy⟩ := retryAt?_eq_some hposts hbid
  have hfirst : ∀ b ∈ front, ¬Retriable x.registry lead posts b.buyerId :=
    fun b hb => retryAt?_eq_none hposts (hfront b hb)
  exact ⟨bid, buyer, service, ⟨hretriable, front, back, hranked, hfirst⟩, hstanding, hitem,
    hpolicy⟩

theorem retryCandidate?_eq_none (hposts : (posts.map (·.buyerId)).Nodup) {ranked : List Bid}
    (h : x.retryCandidate? lead id posts now ranked = none) :
    ∀ bid ∈ ranked, ¬Retriable x.registry lead posts bid.buyerId :=
  fun bid hbid => retryAt?_eq_none hposts (List.findSome?_eq_none_iff.mp h bid hbid)

end Exchange

/-! ### Handing over -/

/-- One item was queued, in place of any other of its key; nothing else was touched. -/
structure Exchange.Queues (x : Exchange ω) (item : RetryItem) (y : Exchange ω) : Prop where
  queued : y.backlog.get? item.key = some item
  others : ∀ key ≠ item.key, y.backlog.get? key = x.backlog.get? key
  deadLetters : y.deadLetters = x.deadLetters

/-- One item was given up; nothing else was touched. -/
structure Exchange.GivesUp (x : Exchange ω) (item : RetryItem) (reason : GivenUp)
    (y : Exchange ω) : Prop where
  backlog : y.backlog = x.backlog
  deadLetters : y.deadLetters = x.deadLetters ++ [⟨item, reason⟩]

/-- Whether the last POST, if there was one, found the lead invalid. -/
def EndsInvalid (posts : List PostResult) : Prop :=
  ∃ p, posts.getLast? = some p ∧ p.status = .invalid

/-- The ways in which an unsold lead may be handed over, with the flag that tells of it. -/
inductive HandedOver (x y : Exchange ω) (lead : Lead) (id : AuctionId) (ranked : List Bid)
    (posts : List PostResult) : Bool → Prop where
  | dropped :
      EndsInvalid posts → y.backlog = x.backlog → y.deadLetters = x.deadLetters →
      HandedOver x y lead id ranked posts false
  | queued {bid : Bid} {buyer : Buyer} {service : Service} {item : RetryItem} :
      ¬EndsInvalid posts → FirstRetriable y.registry lead posts ranked bid →
      y.registry.standing? bid.buyerId lead = some (buyer, service) →
      service.endpoints.retryPolicy.maxAttempts ≠ 0 →
      item.IsFor lead id bid → x.Queues item y →
      HandedOver x y lead id ranked posts true
  | disabled {bid : Bid} {buyer : Buyer} {service : Service} {item : RetryItem} :
      ¬EndsInvalid posts → FirstRetriable y.registry lead posts ranked bid →
      y.registry.standing? bid.buyerId lead = some (buyer, service) →
      service.endpoints.retryPolicy.maxAttempts = 0 →
      item.IsFor lead id bid → x.GivesUp item .disabled y →
      HandedOver x y lead id ranked posts true
  | givenUp {top : Bid} {item : RetryItem} {reason : GivenUp} :
      ¬EndsInvalid posts → (∀ bid ∈ ranked, ¬Retriable y.registry lead posts bid.buyerId) →
      ranked.head? = some top → item.IsFor lead id top → x.GivesUp item reason y →
      HandedOver x y lead id ranked posts false

namespace Exchange

variable {x : Exchange ω} {lead : Lead} {id : AuctionId} {ranked : List Bid}
  {posts : List PostResult} {now : Instant}

theorem endsInvalid_iff :
    (posts.getLast?.any fun p => p.status = .invalid) = true ↔ EndsInvalid posts := by
  simp [EndsInvalid, Option.any_eq_true]

theorem giveUpItem_isFor (x : Exchange ω) (top : Bid) :
    (x.giveUpItem lead id posts now top).1.IsFor lead id top := by
  simp only [giveUpItem]
  split <;> exact ⟨rfl, rfl, rfl, rfl⟩

/-- A lead is handed over in one of the ways. -/
theorem scheduleRetry_spec (hne : ranked ≠ []) (hposts : (posts.map (·.buyerId)).Nodup)
    {queued : Bool} {y : Exchange ω}
    (h : x.scheduleRetry lead id ranked posts now = (queued, y)) :
    HandedOver x y lead id ranked posts queued := by
  unfold scheduleRetry at h
  split at h
  · rename_i hinvalid
    cases h
    exact .dropped (endsInvalid_iff.mp hinvalid) rfl rfl
  rename_i hinvalid
  rw [endsInvalid_iff] at hinvalid
  split at h
  · rename_i item hitem
    obtain ⟨bid, buyer, service, hfirst, hstanding, hfor, hpolicy⟩ :=
      retryCandidate?_eq_some hposts hitem
    simp only [enqueue, hpolicy] at h
    split at h
    · rename_i hzero
      cases h
      exact .disabled hinvalid hfirst hstanding hzero hfor ⟨rfl, rfl⟩
    · rename_i hattempts
      cases h
      exact .queued hinvalid hfirst hstanding hattempts hfor
        ⟨Table.get?_put_self _ _ _, fun key hkey => Table.get?_put_of_ne hkey _ _, rfl⟩
  · rename_i hnone
    split at h
    · exact (hne rfl).elim
    · rename_i top rest
      cases h
      exact .givenUp hinvalid (retryCandidate?_eq_none hposts hnone) rfl (x.giveUpItem_isFor top)
        ⟨rfl, rfl⟩

end Exchange

/-! ### After an auction -/

/-- What the books were before and are afterwards decides alone on how a lead was handed over. -/
theorem HandedOver.congr {x y w z : Exchange ω} {lead : Lead} {id : AuctionId} {ranked : List Bid}
    {posts : List PostResult} {queued : Bool} (h : HandedOver w z lead id ranked posts queued)
    (hbacklog : w.backlog = x.backlog) (hletters : w.deadLetters = x.deadLetters)
    (hbacklog' : y.backlog = z.backlog) (hletters' : y.deadLetters = z.deadLetters)
    (hregistry : y.registry = z.registry) : HandedOver x y lead id ranked posts queued := by
  cases h with
  | dropped hinvalid hb hd =>
    exact .dropped hinvalid (by rw [hbacklog', hb, hbacklog]) (by rw [hletters', hd, hletters])
  | queued hvalid hfirst hstanding hattempts hfor hqueues =>
    rw [← hregistry] at hfirst hstanding
    refine .queued hvalid hfirst hstanding hattempts hfor ⟨?_, ?_, ?_⟩
    · rw [hbacklog', hqueues.queued]
    · rw [hbacklog', ← hbacklog]
      exact hqueues.others
    · rw [hletters', hqueues.deadLetters, hletters]
  | disabled hvalid hfirst hstanding hattempts hfor hgives =>
    rw [← hregistry] at hfirst hstanding
    exact .disabled hvalid hfirst hstanding hattempts hfor
      ⟨by rw [hbacklog', hgives.backlog, hbacklog], by rw [hletters', hgives.deadLetters, hletters]⟩
  | givenUp hvalid hnone htop hfor hgives =>
    rw [← hregistry] at hnone
    exact .givenUp hvalid hnone htop hfor
      ⟨by rw [hbacklog', hgives.backlog, hbacklog], by rw [hletters', hgives.deadLetters, hletters]⟩

namespace HandedOver

variable {x y : Exchange ω} {lead : Lead} {id : AuctionId} {ranked : List Bid}
  {posts : List PostResult} {queued : Bool}

/-- A buyer whose POST ended otherwise than by failing is not offered the lead again. -/
theorem not_queued (h : HandedOver x y lead id ranked posts queued) :
    ∀ p ∈ posts, p.status ≠ .failed →
      y.backlog.get? ⟨lead.id, p.buyerId⟩ = x.backlog.get? ⟨lead.id, p.buyerId⟩ := by
  intro p hp hstatus
  cases h with
  | dropped _ hb _ => rw [hb]
  | @queued bid _ _ item _ hfirst _ _ hfor hqueues =>
    refine hqueues.others _ fun hkey => hstatus ?_
    rw [hfor.key_eq] at hkey
    exact hfirst.retriable.failed p hp (congrArg RetryKey.buyerId hkey)
  | disabled _ _ _ _ _ hgives => rw [hgives.backlog]
  | givenUp _ _ _ _ hgives => rw [hgives.backlog]

end HandedOver

section

variable [Transport ω] {x y : Exchange ω} {lead : Lead} {now : Instant} {r : AuctionResult}

/-- A lead that was offered to bidders and not sold is handed over. -/
theorem Exchange.Auctioned.handedOver (h : Auctioned x lead now r y)
    (hne : Bid.ranking r.bids ≠ []) (hunsold : ∀ p ∈ r.attempts, p.success = false) :
    HandedOver x y lead r.id (Bid.ranking r.bids) r.attempts r.retryScheduled := by
  cases h with
  | invalid => exact (hne Bid.ranking_nil).elim
  | unattended => exact (hne Bid.ranking_nil).elim
  | unsold _ hnone => exact (hne hnone).elim
  | sold hattended hcourse =>
    obtain ⟨hlast, hsuccess, -⟩ := hcourse.sold
    cases (hunsold _ (List.mem_of_getLast? hlast)).symm.trans hsuccess
  | exhausted hattended _ hcourse hbefore hretry hafter hregistry =>
    have hposts := hattended.ranking_buyerIds_nodup.sublist hcourse.sublist
    exact (scheduleRetry_spec hne hposts hretry).congr hbefore.backlog hbefore.deadLetters
      hafter.backlog hafter.deadLetters hregistry

/-- A lead that was sold, or that nobody bid for, is not handed over. -/
theorem Exchange.Auctioned.not_handedOver (h : Auctioned x lead now r y)
    (hsettled : Bid.ranking r.bids = [] ∨ ∃ p ∈ r.attempts, p.success = true) :
    r.retryScheduled = false ∧ y.backlog = x.backlog ∧ y.deadLetters = x.deadLetters := by
  cases h with
  | invalid _ hframe => exact ⟨rfl, hframe.backlog, hframe.deadLetters⟩
  | unattended _ _ hframe => exact ⟨rfl, hframe.backlog, hframe.deadLetters⟩
  | unsold _ _ hframe => exact ⟨rfl, hframe.backlog, hframe.deadLetters⟩
  | sold _ _ hframe => exact ⟨rfl, hframe.backlog, hframe.deadLetters⟩
  | exhausted _ hne hcourse =>
    rcases hsettled with hnone | ⟨p, hp, hsuccess⟩
    · exact (hne hnone).elim
    · cases (hcourse.not_success p hp).symm.trans hsuccess

end

/-- **No lead is lost**: after an auction in which a lead was offered to bidders and not sold, it
was dropped for being invalid, or it waits for a retry, or it was given up, each of these exactly
in its own case; a bidder who called it a duplicate or invalid is not offered it again. -/
theorem Exchange.runAuction_handedOver [Transport ω] (x : Exchange ω) (lead : Lead) (now : Instant)
    (hne : Bid.ranking (x.runAuction lead now).1.bids ≠ [])
    (hunsold : ∀ p ∈ (x.runAuction lead now).1.attempts, p.success = false) :
    HandedOver x (x.runAuction lead now).2 lead (x.runAuction lead now).1.id
        (Bid.ranking (x.runAuction lead now).1.bids) (x.runAuction lead now).1.attempts
        (x.runAuction lead now).1.retryScheduled ∧
      ∀ p ∈ (x.runAuction lead now).1.attempts, p.status = .duplicate ∨ p.status = .invalid →
        (x.runAuction lead now).2.backlog.get? ⟨lead.id, p.buyerId⟩ =
          x.backlog.get? ⟨lead.id, p.buyerId⟩ := by
  have h := (x.runAuction_spec lead now).handedOver hne hunsold
  refine ⟨h, fun p hp hstatus => h.not_queued p hp ?_⟩
  rcases hstatus with hstatus | hstatus <;> rw [hstatus] <;> decide

/-! ### What the flag tells -/

/-- Whether an auction's lead waits for a retry at one of its bidders. -/
def Awaits (backlog : Backlog) (lead : Lead) (id : AuctionId) (ranked : List Bid) : Prop :=
  ∃ bid ∈ ranked, ∃ item,
    backlog.get? ⟨lead.id, bid.buyerId⟩ = some item ∧ item.auction = some id

/-- Whether a retry is due at a bidder whose policy has no attempts. -/
structure RetryDisabled (registry : Registry) (lead : Lead) (ranked : List Bid)
    (posts : List PostResult) : Prop where
  unsold : ∀ p ∈ posts, p.success = false
  valid : ¬EndsInvalid posts
  disabled : ∃ bid buyer service, FirstRetriable registry lead posts ranked bid ∧
    registry.standing? bid.buyerId lead = some (buyer, service) ∧
    service.endpoints.retryPolicy.maxAttempts = 0

theorem FirstRetriable.mem {registry : Registry} {lead : Lead} {posts : List PostResult}
    {ranked : List Bid} {bid : Bid} (h : FirstRetriable registry lead posts ranked bid) :
    bid ∈ ranked := by
  obtain ⟨front, back, rfl, -⟩ := h.first
  simp

open Classical in
/-- There is one first bidder. -/
theorem FirstRetriable.unique {registry : Registry} {lead : Lead} {posts : List PostResult}
    {ranked : List Bid} {a b : Bid} (ha : FirstRetriable registry lead posts ranked a)
    (hb : FirstRetriable registry lead posts ranked b) : a = b := by
  have hfind {c : Bid} (hc : FirstRetriable registry lead posts ranked c) :
      (ranked.find? fun b => Retriable registry lead posts b.buyerId) = some c := by
    obtain ⟨front, back, hranked, hfront⟩ := hc.first
    refine List.find?_eq_some_iff_append.mpr ⟨by simpa using hc.retriable, front, back, hranked, ?_⟩
    intro d hd
    simpa using hfront d hd
  exact Option.some.inj ((hfind ha).symm.trans (hfind hb))

theorem not_awaits {x : Exchange ω} {id : AuctionId}
    (hnew : ∀ key item, x.backlog.get? key = some item → item.auction ≠ some id) {lead : Lead}
    {ranked : List Bid} : ¬Awaits x.backlog lead id ranked := by
  rintro ⟨bid, -, item, hitem, hid⟩
  exact hnew _ item hitem hid

/-- The flag is set when the lead waits, and when a policy without attempts had it given up. -/
theorem HandedOver.flag_iff {x y : Exchange ω} {lead : Lead} {id : AuctionId} {ranked : List Bid}
    {posts : List PostResult} {queued : Bool} (h : HandedOver x y lead id ranked posts queued)
    (hnew : ∀ key item, x.backlog.get? key = some item → item.auction ≠ some id)
    (hunsold : ∀ p ∈ posts, p.success = false) :
    (queued = true ↔ Awaits y.backlog lead id ranked ∨
        RetryDisabled y.registry lead ranked posts) ∧
      ¬(Awaits y.backlog lead id ranked ∧ RetryDisabled y.registry lead ranked posts) := by
  cases h with
  | dropped hinvalid hbacklog =>
    have hwaits : ¬Awaits y.backlog lead id ranked := hbacklog ▸ not_awaits hnew
    have hdisabled : ¬RetryDisabled y.registry lead ranked posts := fun hd => hd.valid hinvalid
    simp [hwaits, hdisabled]
  | @queued bid buyer service item _ hfirst hstanding hattempts hfor hqueues =>
    have hwaits : Awaits y.backlog lead id ranked :=
      ⟨bid, hfirst.mem, item, hfor.key_eq ▸ hqueues.queued, hfor.auction⟩
    have hdisabled : ¬RetryDisabled y.registry lead ranked posts := by
      rintro ⟨-, -, bid', buyer', service', hfirst', hstanding', hzero⟩
      obtain rfl := hfirst.unique hfirst'
      cases hstanding.symm.trans hstanding'
      exact hattempts hzero
    simp [hwaits, hdisabled]
  | disabled hvalid hfirst hstanding hzero _ hgives =>
    have hwaits : ¬Awaits y.backlog lead id ranked := hgives.backlog ▸ not_awaits hnew
    have hdisabled : RetryDisabled y.registry lead ranked posts :=
      ⟨hunsold, hvalid, _, _, _, hfirst, hstanding, hzero⟩
    simp [hwaits, hdisabled]
  | givenUp _ hnone _ _ hgives =>
    have hwaits : ¬Awaits y.backlog lead id ranked := hgives.backlog ▸ not_awaits hnew
    have hdisabled : ¬RetryDisabled y.registry lead ranked posts := by
      rintro ⟨-, -, bid, -, -, hfirst, -⟩
      exact hnone bid hfirst.mem hfirst.retriable
    simp [hwaits, hdisabled]

section

variable [Transport ω]

theorem Exchange.Auctioned.flag_iff {x y : Exchange ω} {lead : Lead} {now : Instant}
    {r : AuctionResult} (h : Auctioned x lead now r y)
    (hnew : ∀ key item, x.backlog.get? key = some item → item.auction ≠ some r.id) :
    (r.retryScheduled = true ↔ Awaits y.backlog lead r.id (Bid.ranking r.bids) ∨
        RetryDisabled y.registry lead (Bid.ranking r.bids) r.attempts) ∧
      ¬(Awaits y.backlog lead r.id (Bid.ranking r.bids) ∧
        RetryDisabled y.registry lead (Bid.ranking r.bids) r.attempts) := by
  by_cases hsettled : Bid.ranking r.bids = [] ∨ ∃ p ∈ r.attempts, p.success = true
  · obtain ⟨hflag, hbacklog, -⟩ := h.not_handedOver hsettled
    have hwaits : ¬Awaits y.backlog lead r.id (Bid.ranking r.bids) := hbacklog ▸ not_awaits hnew
    have hdisabled : ¬RetryDisabled y.registry lead (Bid.ranking r.bids) r.attempts := by
      rintro ⟨hunsold, -, bid, -, -, hfirst, -⟩
      rcases hsettled with hnone | ⟨p, hp, hsuccess⟩
      · exact List.not_mem_nil (hnone ▸ hfirst.mem)
      · cases (hunsold p hp).symm.trans hsuccess
    simp [hflag, hwaits, hdisabled]
  · obtain ⟨hne, hunsold⟩ := not_or.mp hsettled
    have hunsold : ∀ p ∈ r.attempts, p.success = false := by simpa using hunsold
    exact (h.handedOver hne hunsold).flag_iff hnew hunsold

/-- **The flag of an auction tells the truth just when no retry is due at a bidder whose policy has
no attempts**; it is then set although the lead was given up. The id of the auction is a new one. -/
theorem Exchange.runAuction_retryScheduled (x : Exchange ω) (lead : Lead) (now : Instant)
    (hnew : ∀ key item, x.backlog.get? key = some item →
      item.auction ≠ some (x.runAuction lead now).1.id) :
    ((x.runAuction lead now).1.retryScheduled = true ↔
        Awaits (x.runAuction lead now).2.backlog lead (x.runAuction lead now).1.id
            (Bid.ranking (x.runAuction lead now).1.bids) ∨
          RetryDisabled (x.runAuction lead now).2.registry lead
            (Bid.ranking (x.runAuction lead now).1.bids) (x.runAuction lead now).1.attempts) ∧
      (((x.runAuction lead now).1.retryScheduled = true ↔
          Awaits (x.runAuction lead now).2.backlog lead (x.runAuction lead now).1.id
            (Bid.ranking (x.runAuction lead now).1.bids)) ↔
        ¬RetryDisabled (x.runAuction lead now).2.registry lead
          (Bid.ranking (x.runAuction lead now).1.bids) (x.runAuction lead now).1.attempts) := by
  obtain ⟨hflag, hboth⟩ := (x.runAuction_spec lead now).flag_iff hnew
  refine ⟨hflag, ?_⟩
  rw [hflag]
  tauto

end

open Sample in
theorem Exchange.runAuction_retryScheduled_sample :
    (auction noRetries).1.retryScheduled = true ↔
      Awaits (auction noRetries).2.backlog lead (auction noRetries).1.id
          (Bid.ranking (auction noRetries).1.bids) ∨
        RetryDisabled (auction noRetries).2.registry lead
          (Bid.ranking (auction noRetries).1.bids) (auction noRetries).1.attempts :=
  (runAuction_retryScheduled (exchange noRetries) lead ⟨5, 0⟩
    fun _ _ hitem => nomatch hitem).1

open Sample in
set_option maxRecDepth 10000 in
/-- The flag is set and no lead waits, where the policy of the only bidder has no attempts; such a
buyer may be registered. -/
theorem Exchange.retryScheduled_without_item :
    (buyer noRetries).checkAll.isOk = true ∧ (auction noRetries).1.retryScheduled = true ∧
      ¬Awaits (auction noRetries).2.backlog lead (auction noRetries).1.id
        (Bid.ranking (auction noRetries).1.bids) := by
  refine ⟨by decide, by decide +kernel, ?_⟩
  rintro ⟨bid, -, item, hitem, -⟩
  have hempty : (auction noRetries).2.backlog.length = 0 := by decide +kernel
  rw [List.eq_nil_of_length_eq_zero hempty] at hitem
  cases hitem

end PingPost
