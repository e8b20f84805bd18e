import PingPost.Proofs.AuditTrail

/-!
A lead is sold at most once in an auction.

`ExclusiveSale` says which results an auction may have: to whom the lead was offered, that nobody
was offered it after a buyer took it, who won and for how much, and exactly when each status is
given. An auction fails when the ranking is exhausted: every bidder had its turn, and was passed
over or refused the lead (`Declined`). Every auction has such a result
(`Exchange.runAuction_exclusive`), whatever the buyers answer and however the registry changes
meanwhile.
-/

namespace PingPost

open Exchange

variable {ω : Type} [Transport ω]

/-- A bidder had its turn, when the bidders before it in the ranking had had theirs, and the lead
was not sold to it. -/
inductive Declined (x : Exchange ω) (lead : Lead) (now : Instant) (r : AuctionResult) (i : Nat)
    (bid : Bid) : Prop where
  | passedOver :
      ((x.afterPings lead now).turn lead r.id now ((Bid.ranking r.bids).take i)).offer?
        bid.buyerId lead = none →
      Declined x lead now r i bid
  | refused {buyer : Buyer} {service : Service} {p : PostResult} :
      ((x.afterPings lead now).turn lead r.id now ((Bid.ranking r.bids).take i)).offer?
        bid.buyerId lead = some (buyer, service) →
      p ∈ r.attempts → p.buyerId = bid.buyerId → p.success = false →
      Declined x lead now r i bid

/-- What the result of an auction says about the sale of the lead. -/
structure ExclusiveSale (x : Exchange ω) (lead : Lead) (now : Instant) (r : AuctionResult) :
    Prop where
  /-- Every participant of a valid lead's auction has a bid. -/
  bids : lead.check = .ok () → r.participants = (x.participants lead).length ∧
    r.bids.map (·.buyerId) = (x.participants lead).map (·.buyer.id)
  /-- The lead is offered to bidders of the ranking, in its order. -/
  offered : (r.attempts.map (·.buyerId)).Sublist ((Bid.ranking r.bids).map (·.buyerId))
  /-- The lead is offered to each of them once. -/
  once : (r.attempts.map (·.buyerId)).Nodup
  /-- Only the last POST may have sold the lead. -/
  last : ∀ p ∈ r.attempts.dropLast, p.success = false
  completed : r.status = .completed ↔ ∃ p ∈ r.attempts, p.success = true
  /-- The buyer who took the lead pays the amount of its bid in the ranking. -/
  winner : ∀ p ∈ r.attempts, p.success = true →
    r.winningBuyerId = some p.buyerId ∧ r.post = some p ∧
      ∀ b ∈ Bid.ranking r.bids, b.buyerId = p.buyerId → r.winningBidAmount = b.amount
  unsold : r.status ≠ .completed → r.winningBuyerId = none ∧ r.winningBidAmount = none
  timeout : r.status = .timeout ↔ 0 < r.participants ∧ ∀ b ∈ r.bids, b.timedOut = true
  noBids : r.status = .noBids ↔ lead.check = .ok () ∧
    (r.participants = 0 ∨ Bid.ranking r.bids = [] ∧ ∃ b ∈ r.bids, b.timedOut = false)
  /-- Nobody takes the lead although there is a ranking: all in it had their turns. -/
  failed : r.status = .failed ↔ (∃ e, lead.check = .error e) ∨
    Bid.ranking r.bids ≠ [] ∧
      ∀ i bid, (Bid.ranking r.bids)[i]? = some bid → Declined x lead now r i bid

/-! ### The end without a ranking -/

section

omit [Transport ω]

theorem unsoldStatus_eq_timeout {bids : List Bid} :
    unsoldStatus bids = .timeout ↔ ∀ b ∈ bids, b.timedOut = true := by
  simp [unsoldStatus]

theorem unsoldStatus_eq_noBids {bids : List Bid} :
    unsoldStatus bids = .noBids ↔ ∃ b ∈ bids, b.timedOut = false := by
  simp [unsoldStatus]

theorem unsoldStatus_ne_completed (bids : List Bid) : unsoldStatus bids ≠ .completed := by
  unfold unsoldStatus
  split <;> simp

theorem unsoldStatus_ne_failed (bids : List Bid) : unsoldStatus bids ≠ .failed := by
  unfold unsoldStatus
  split <;> simp

end

/-! ### The turns of the bidders -/

namespace Walk

variable {x : Exchange ω} {lead : Lead} {now : Instant} {r : AuctionResult} {es : Ledger}

/-- Where nobody takes the lead, every bidder has declined. -/
theorem declined (h : Walk x lead now r es) (hunsold : r.winningBuyerId = none)
    (hfailed : ∀ p ∈ r.attempts, p.success = false) {i : Nat} {bid : Bid}
    (hbid : (Bid.ranking r.bids)[i]? = some bid) : Declined x lead now r i bid := by
  obtain ⟨e, he, hbuyer⟩ := h.entry_of_unsold hunsold hbid
  have hpassed := h.passedOver i bid e hbid he
  rcases h.actions e (List.mem_of_getElem? he) with hpost | ⟨hskipped, -⟩
  · have hoffer := mt hpassed.mpr (by simp [hpost])
    obtain ⟨⟨buyer, service⟩, hoffer⟩ := Option.ne_none_iff_exists'.mp hoffer
    obtain ⟨p, hp, hpBuyer⟩ := h.exists_attempt he hpost
    exact .refused hoffer hp (hpBuyer.trans hbuyer) (hfailed p hp)
  · exact .passedOver (hpassed.mp hskipped)

/-- The bidder who takes the lead has not declined. -/
theorem not_declined (h : Walk x lead now r es) (honce : (r.attempts.map (·.buyerId)).Nodup)
    {p : PostResult} (hp : p ∈ r.attempts) (hsuccess : p.success = true) :
    ∃ i bid, (Bid.ranking r.bids)[i]? = some bid ∧ ¬Declined x lead now r i bid := by
  obtain ⟨i, e, he, hpost, hbuyer⟩ := h.exists_entry hp
  obtain ⟨bid, hbid, hbidder⟩ := h.bidder he
  refine ⟨i, bid, hbid, fun hdeclined => ?_⟩
  cases hdeclined with
  | passedOver hnone =>
    have hskipped := (h.passedOver i bid e hbid he).mpr hnone
    cases hskipped.symm.trans hpost
  | refused _ hq hqBuyer hrefused =>
    have hsame := List.inj_on_of_nodup_map honce hq hp (by rw [hqBuyer, hbidder, hbuyer])
    cases hrefused.symm.trans (hsame ▸ hsuccess)

end Walk

/-! ### The ways an auction may go -/

namespace ExclusiveSale

variable {x : Exchange ω} {lead : Lead} {now : Instant} {pings : List PingResult}
  {posts : List PostResult} {id : AuctionId} {n : Nat} {es walk : Ledger}

theorem of_invalid {e : FieldError} (hinvalid : lead.check = .error e) :
    ExclusiveSale x lead now (.unsold id lead.id .failed 0 [] (some (.invalidLead e))) := by
  constructor <;> simp [AuctionResult.unsold, AuctionResult.winningBuyerId,
    AuctionResult.winningBidAmount, hinvalid]

theorem of_unattended (hvalid : lead.check = .ok ()) (hnone : x.participants lead = []) :
    ExclusiveSale x lead now (.unsold id lead.id .noBids 0 [] (some .noBuyers)) := by
  constructor <;> simp [AuctionResult.unsold, AuctionResult.winningBuyerId,
    AuctionResult.winningBidAmount, hvalid, hnone]

theorem of_unsold (h : Attended x lead pings) (hranked : Bid.ranking (pings.map (·.bid)) = []) :
    ExclusiveSale x lead now (.unsold id lead.id (unsoldStatus (pings.map (·.bid))) pings.length
      (pings.map (·.bid)) none) where
  bids _ := ⟨h.length_eq, h.bids_buyerIds⟩
  offered := List.nil_sublist _
  once := .nil
  last := by simp [AuctionResult.unsold]
  completed := by simp [AuctionResult.unsold, unsoldStatus_ne_completed]
  winner := by simp [AuctionResult.unsold]
  unsold _ := ⟨rfl, rfl⟩
  timeout := by
    have hpos := List.length_pos_iff.mpr h.ne_nil
    simp only [AuctionResult.unsold, unsoldStatus_eq_timeout, hpos, true_and]
  noBids := by
    simp [AuctionResult.unsold, unsoldStatus_eq_noBids, hranked, h.valid, h.ne_nil]
  failed := by simp [AuctionResult.unsold, unsoldStatus_ne_failed, h.valid, hranked]

/-- Where there is a ranking, a bid came in time. -/
theorem not_all_late (h : Attended x lead pings) (hne : Bid.ranking (pings.map (·.bid)) ≠ []) :
    ¬∀ b ∈ pings.map (·.bid), b.timedOut = true := by
  intro hall
  obtain ⟨b, hb⟩ := List.exists_mem_of_ne_nil _ hne
  obtain ⟨hmem, husable⟩ := Bid.mem_ranking.mp hb
  simp [h.not_usable_of_timedOut b hmem (hall b hmem)] at husable

theorem of_sold {s : Sale} (h : Attended x lead pings)
    (hcourse : Cascade lead.id id n (Bid.ranking (pings.map (·.bid))) posts (some s) es)
    (hwalk : Walk x lead now ⟨id, lead.id, .completed, some s, pings.map (·.bid), pings.length,
      posts, some s.post, false, none⟩ walk) :
    ExclusiveSale x lead now ⟨id, lead.id, .completed, some s, pings.map (·.bid), pings.length,
      posts, some s.post, false, none⟩ := by
  obtain ⟨hlast, hsuccess, hbuyer, bid, hbid, hwins, hamount⟩ := hcourse.sold
  have hmem : s.post ∈ posts := List.mem_of_getLast? hlast
  have hne := List.ne_nil_of_mem hbid
  have hnodup := h.ranking_buyerIds_nodup
  have honce := hnodup.sublist hcourse.sublist
  exact {
    bids := fun _ => ⟨h.length_eq, h.bids_buyerIds⟩
    offered := hcourse.sublist
    once := honce
    last := hcourse.not_success_of_mem_dropLast
    completed := iff_of_true rfl ⟨s.post, hmem, hsuccess⟩
    winner := by
      intro p hp hp'
      obtain rfl := hcourse.eq_of_success p hp hp'
      refine ⟨congrArg some hbuyer.symm, rfl, fun b hb hb' => ?_⟩
      have hsame := List.inj_on_of_nodup_map hnodup hb hbid (by rw [hb', hbuyer, hwins])
      rw [hsame, hamount]
      rfl
    unsold := fun hstatus => (hstatus rfl).elim
    timeout := iff_of_false (by simp) fun hlate => not_all_late h hne hlate.2
    noBids := iff_of_false (by simp) (by simp [hne, h.ne_nil])
    failed := iff_of_false (by simp) fun hfailed => by
      rcases hfailed with ⟨e, he⟩ | ⟨-, hfailed⟩
      · cases h.valid.symm.trans he
      · obtain ⟨i, bid, hbid, hnot⟩ := hwalk.not_declined honce hmem hsuccess
        exact hnot (hfailed i bid hbid) }

theorem of_exhausted {queued : Bool} (h : Attended x lead pings)
    (hne : Bid.ranking (pings.map (·.bid)) ≠ [])
    (hcourse : Cascade lead.id id n (Bid.ranking (pings.map (·.bid))) posts none es)
    (hwalk : Walk x lead now ⟨id, lead.id, .failed, none, pings.map (·.bid), pings.length, posts,
      posts.getLast?, queued, some .exhausted⟩ walk) :
    ExclusiveSale x lead now ⟨id, lead.id, .failed, none, pings.map (·.bid), pings.length, posts,
      posts.getLast?, queued, some .exhausted⟩ := by
  have hfailed := hcourse.not_success
  exact {
    bids := fun _ => ⟨h.length_eq, h.bids_buyerIds⟩
    offered := hcourse.sublist
    once := h.ranking_buyerIds_nodup.sublist hcourse.sublist
    last := hcourse.not_success_of_mem_dropLast
    completed := iff_of_false (by simp) fun ⟨p, hp, hp'⟩ => by simp [hfailed p hp] at hp'
    winner := fun p hp hp' => by simp [hfailed p hp] at hp'
    unsold := fun _ => ⟨rfl, rfl⟩
    timeout := iff_of_false (by simp) fun hlate => not_all_late h hne hlate.2
    noBids := iff_of_false (by simp) (by simp [hne, h.ne_nil])
    failed := iff_of_true rfl (.inr ⟨hne, fun _ _ => hwalk.declined rfl hfailed⟩) }

end ExclusiveSale

/-- **A lead is sold at most once in an auction**, and the result says truly whether, to whom and
for how much, or why not. -/
theorem Exchange.runAuction_exclusive (x : Exchange ω) (lead : Lead) (now : Instant) :
    ExclusiveSale x lead now (x.runAuction lead now).1 := by
  have hspec := x.runAuction_spec lead now
  have htold := (x.runAuction_auditTrail lead now).told
  generalize x.runAuction lead now = outcome at hspec htold
  rcases outcome with ⟨r, y⟩
  cases hspec with
  | invalid hinvalid => exact .of_invalid hinvalid
  | unattended hvalid hnone => exact .of_unattended hvalid hnone
  | unsold hattended hranked => exact .of_unsold hattended hranked
  | sold hattended hcourse =>
    obtain ⟨walk, -, -, hwalk, -⟩ := htold hattended.valid hattended.asked
    exact .of_sold hattended hcourse hwalk
  | exhausted hattended hne hcourse =>
    obtain ⟨walk, -, -, hwalk, -⟩ := htold hattended.valid hattended.asked
    exact .of_exhausted hattended hne hcourse hwalk

end PingPost
