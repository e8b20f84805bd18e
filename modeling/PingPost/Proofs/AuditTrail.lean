import PingPost.Proofs.Auction

/-!
The audit trail of an auction.

The ledger tells of an auction in two parts. First comes an entry for each bidder to whom the lead
was to be offered, in the order of the ranking (`Walk`): the POST, or that the bidder was passed
over. Then comes an entry for each PING, which says whether its bid won (`PingEntry`). An auction
for which nobody was asked leaves no entry.

Whether a bidder is passed over is decided at its turn (`Exchange.turn`), when the bidders before
it have had theirs.
-/

namespace PingPost

open Exchange

variable {ω : Type}

/-! ### What a course leaves in the ledger -/

namespace Cascade

variable {leadId : String} {id : AuctionId} {n : Nat} {ranked : List Bid}
  {posts : List PostResult} {sale : Option Sale} {es : Ledger}

theorem leadId_eq (h : Cascade leadId id n ranked posts sale es) :
    ∀ e ∈ es, e.leadId = leadId := by
  induction h with
  | exhausted => simp
  | skipped _ ih => exact List.forall_mem_cons.mpr ⟨rfl, ih⟩
  | refused _ _ _ _ _ ih => exact List.forall_mem_cons.mpr ⟨rfl, ih⟩
  | taken => exact List.forall_mem_singleton.mpr rfl

/-- Every entry is new, and tells of a POST or of a bidder who was passed over. -/
theorem action (h : Cascade leadId id n ranked posts sale es) :
    ∀ e ∈ es, e.retryCount = 0 ∧
      (e.action = .post ∨ e.action = .delivery ∧ e.label = .skipped) := by
  induction h with
  | exhausted => simp
  | skipped _ ih => exact List.forall_mem_cons.mpr ⟨⟨rfl, .inr ⟨rfl, rfl⟩⟩, ih⟩
  | refused _ _ _ _ _ ih => exact List.forall_mem_cons.mpr ⟨⟨rfl, .inl rfl⟩, ih⟩
  | taken => exact List.forall_mem_singleton.mpr ⟨rfl, .inl rfl⟩

/-- The entries are those of the first bidders of the ranking: of all, or of those up to the one
who took the lead. -/
theorem walked (h : Cascade leadId id n ranked posts sale es) :
    ∃ left, ranked.map (·.buyerId) = es.map (·.buyerId) ++ left ∧ (sale = none → left = []) ∧
      ∀ s, sale = some s → es.getLast?.map (·.buyerId) = some s.buyerId := by
  induction h with
  | exhausted => exact ⟨[], rfl, fun _ => rfl, by simp⟩
  | @skipped n bid rest posts sale es _ ih =>
    obtain ⟨left, hleft, hnone, hsome⟩ := ih
    refine ⟨left, by rw [List.map_cons, hleft]; rfl, hnone, fun s hs => ?_⟩
    obtain ⟨e, he, hbuyer⟩ := Option.map_eq_some_iff.mp (hsome s hs)
    rw [List.getLast?_cons, he]
    exact congrArg some hbuyer
  | @refused n bid rest posts sale es p label hbuyer _ _ _ _ ih =>
    obtain ⟨left, hleft, hnone, hsome⟩ := ih
    refine ⟨left, ?_, hnone, fun s hs => ?_⟩
    · rw [List.map_cons, hleft, ← hbuyer]
      rfl
    · obtain ⟨e, he, hwinner⟩ := Option.map_eq_some_iff.mp (hsome s hs)
      rw [List.getLast?_cons, he]
      exact congrArg some hwinner
  | @taken n bid rest p hbuyer =>
    refine ⟨rest.map (·.buyerId), by rw [List.map_cons, ← hbuyer]; rfl, by simp, ?_⟩
    rintro s ⟨⟩
    exact congrArg some hbuyer

/-- The entries about POSTs, with their positions, are those of the results. -/
theorem posts_eq (h : Cascade leadId id n ranked posts sale es) :
    ((es.zipIdx n).filter fun e => e.1.action = .post).map
        (fun e => (some e.2, e.1.buyerId, e.1.outcome)) =
      posts.map fun p => (p.entry, p.buyerId, if p.success then .won else .lost) := by
  induction h with
  | exhausted => rfl
  | skipped _ ih => simpa [List.zipIdx_cons, skippedEntry] using ih
  | refused hbuyer hentry _ _ _ ih =>
    simpa [List.zipIdx_cons, PostResult.toEntry, DeliveryContext.ofAuction, hentry] using ih
  | taken hbuyer hentry _ =>
    simp [List.zipIdx_cons, PostResult.toEntry, DeliveryContext.ofAuction, hentry]

end Cascade

/-! ### The turns of the bidders -/

section

variable [Transport ω] {lead : Lead} {id : AuctionId} {now : Instant} {bid : Bid}
  {front ranked : List Bid}

/-- The exchange at the turn of the bidder who comes after some others, none of whom took the
lead. -/
def Exchange.turn (x : Exchange ω) (lead : Lead) (id : AuctionId) (now : Instant)
    (front : List Bid) : Exchange ω :=
  (x.cascade lead id now front).2.2.interlude

namespace Exchange

variable {x : Exchange ω}

theorem turn_cons_of_skipped (h : x.interlude.offer? bid.buyerId lead = none) :
    x.turn lead id now (bid :: front) =
      (x.interlude.record (skippedEntry id lead.id bid)).turn lead id now front := by
  simp only [turn, cascade, h]

theorem turn_cons_of_refused {buyer : Buyer} {service : Service} {p : PostResult}
    {y : Exchange ω} (h : x.interlude.offer? bid.buyerId lead = some (buyer, service))
    (hdeliver : x.interlude.deliver lead buyer service (.ofAuction id bid.amount) now = (p, y))
    (hrefused : p.success = false) :
    x.turn lead id now (bid :: front) = y.turn lead id now front := by
  simp [turn, cascade, h, hdeliver, hrefused]

/-- A bidder is passed over just when it may not be offered the lead, or not be called, at its
turn. -/
theorem cascade_turn {es : Ledger} (hes : (x.cascade lead id now ranked).2.2.ledger =
    x.ledger ++ es) {i : Nat} {e : Entry} (hbid : ranked[i]? = some bid) (he : es[i]? = some e) :
    e.action = .delivery ↔
      (x.turn lead id now (ranked.take i)).offer? bid.buyerId lead = none := by
  -- Over all exchanges, since every turn starts from the exchange the turn before has left.
  induction ranked generalizing x es i with
  | nil => cases hbid
  | cons first rest ih =>
    have hledger : x.interlude.ledger = x.ledger := by
      rw [x.interlude_appends.ledger, List.append_nil]
    -- After the first turn, which leaves an entry and the exchange `y`, the cascade goes on.
    have hstep {y : Exchange ω} {f : Entry} {tail : Ledger} (hcons : es = f :: tail)
        (hfirst : f.action = .delivery ↔ x.interlude.offer? first.buyerId lead = none)
        (hturn : ∀ front, x.turn lead id now (first :: front) = y.turn lead id now front)
        (hrest : (y.cascade lead id now rest).2.2.ledger = y.ledger ++ tail) :
        e.action = .delivery ↔
          (x.turn lead id now ((first :: rest).take i)).offer? bid.buyerId lead = none := by
      subst hcons
      cases i with
      | zero =>
        cases hbid
        cases he
        exact hfirst
      | succ i =>
        rw [List.take_succ_cons, hturn]
        exact ih hrest hbid he
    rcases hoffer : x.interlude.offer? first.buyerId lead with _ | ⟨buyer, service⟩
    · obtain ⟨tail, -, hrest⟩ := (x.interlude.record (skippedEntry id lead.id first)).cascade_spec
        lead id now rest rfl
      refine hstep (f := skippedEntry id lead.id first) ?_ (iff_of_true rfl hoffer)
        (fun front => turn_cons_of_skipped hoffer) hrest.ledger
      simp only [cascade, hoffer, hrest.ledger] at hes
      simpa [record, hledger] using hes.symm
    · rcases hdeliver : x.interlude.deliver lead buyer service (.ofAuction id first.amount) now
        with ⟨p, y⟩
      obtain ⟨-, -, label, -, hpost⟩ := deliver_appends _ _ _ _ _ _ hdeliver
      have hy := hpost.ledger
      rw [hledger] at hy
      have hhead : (p.toEntry lead.id label (.ofAuction id first.amount)).action = .delivery ↔
          x.interlude.offer? first.buyerId lead = none :=
        iff_of_false (by simp [PostResult.toEntry, DeliveryContext.ofAuction]) (by simp [hoffer])
      by_cases hsuccess : p.success = true
      · have hone : es = [p.toEntry lead.id label (.ofAuction id first.amount)] := by
          simpa [cascade, hoffer, hdeliver, hsuccess, hy] using hes.symm
        subst hone
        cases i with
        | zero =>
          cases hbid
          cases he
          exact hhead
        | succ i => cases he
      · obtain ⟨tail, -, hrest⟩ := y.cascade_spec lead id now rest rfl
        refine hstep ?_ hhead (fun front => turn_cons_of_refused hoffer hdeliver
          (Bool.eq_false_iff.mpr hsuccess)) hrest.ledger
        simpa [cascade, hoffer, hdeliver, hsuccess, hrest.ledger, hy] using hes.symm

end Exchange

end

/-! ### The trail -/

/-- The exchange when all PINGs of an auction are done. -/
def Exchange.afterPings [Transport ω] (x : Exchange ω) (lead : Lead) (now : Instant) :
    Exchange ω :=
  (x.countAuction.pingAll lead (x.participants lead) now).2

/-- The entries about the bidders of an auction's ranking who had their turn. -/
structure Walk [Transport ω] (x : Exchange ω) (lead : Lead) (now : Instant) (r : AuctionResult)
    (es : Ledger) : Prop where
  carried : ∀ e ∈ es, e.auction = some r.id ∧ e.leadId = lead.id
  /-- One entry for each bidder, in the order of the ranking, up to the winner if there is one. -/
  bidders : ∃ left, (Bid.ranking r.bids).map (·.buyerId) = es.map (·.buyerId) ++ left ∧
    (r.winningBuyerId = none → left = []) ∧
    ∀ winner, r.winningBuyerId = some winner → es.getLast?.map (·.buyerId) = some winner
  actions : ∀ e ∈ es, e.action = .post ∨ e.action = .delivery ∧ e.label = .skipped
  /-- The POSTs are the attempts, in order, each at the position that its attempt names. -/
  posts : ((es.zipIdx x.ledger.length).filter fun e => e.1.action = .post).map
      (fun e => (some e.2, e.1.buyerId, e.1.outcome)) =
    r.attempts.map fun p => (p.entry, p.buyerId, if p.success then .won else .lost)
  /-- A bidder is passed over just when it was no longer eligible at its turn. -/
  passedOver : ∀ i bid e, (Bid.ranking r.bids)[i]? = some bid → es[i]? = some e →
    (e.action = .delivery ↔ (((x.afterPings lead now).turn lead r.id now
      ((Bid.ranking r.bids).take i)).offer? bid.buyerId lead = none))

namespace Walk

variable [Transport ω] {x : Exchange ω} {lead : Lead} {now : Instant} {r : AuctionResult}
  {es : Ledger} {i : Nat} {e : Entry}

/-- Every entry is about the bidder at its place in the ranking. -/
theorem bidder (h : Walk x lead now r es) (he : es[i]? = some e) :
    ∃ bid, (Bid.ranking r.bids)[i]? = some bid ∧ bid.buyerId = e.buyerId := by
  obtain ⟨left, hleft, -⟩ := h.bidders
  have hbuyer : (es.map (·.buyerId) ++ left)[i]? = some e.buyerId := by
    rw [List.getElem?_append_left (by simpa using (List.getElem?_eq_some_iff.mp he).1),
      List.getElem?_map, he]
    rfl
  rwa [← hleft, List.getElem?_map, Option.map_eq_some_iff] at hbuyer

/-- Where nobody takes the lead, every bidder of the ranking had its turn. -/
theorem entry_of_unsold (h : Walk x lead now r es) (hunsold : r.winningBuyerId = none) {bid : Bid}
    (hbid : (Bid.ranking r.bids)[i]? = some bid) :
    ∃ e, es[i]? = some e ∧ e.buyerId = bid.buyerId := by
  obtain ⟨left, hleft, hnone, -⟩ := h.bidders
  rw [hnone hunsold, List.append_nil] at hleft
  have hbuyer : (es.map (·.buyerId))[i]? = some bid.buyerId := by
    rw [← hleft, List.getElem?_map, hbid]
    rfl
  rwa [List.getElem?_map, Option.map_eq_some_iff] at hbuyer

theorem exists_attempt (h : Walk x lead now r es) (he : es[i]? = some e)
    (hpost : e.action = .post) : ∃ p ∈ r.attempts, p.buyerId = e.buyerId := by
  have hmem : (e, x.ledger.length + i) ∈
      (es.zipIdx x.ledger.length).filter fun e => e.1.action = .post :=
    List.mem_filter.mpr ⟨List.mk_mem_zipIdx_iff_le_and_getElem?_sub.mpr
      ⟨Nat.le_add_right _ _, by rwa [Nat.add_sub_cancel_left]⟩, by simpa using hpost⟩
  obtain ⟨p, hp, heq⟩ := List.mem_map.mp (h.posts ▸ List.mem_map_of_mem hmem)
  exact ⟨p, hp, congrArg (fun t => t.2.1) heq⟩

theorem exists_entry (h : Walk x lead now r es) {p : PostResult} (hp : p ∈ r.attempts) :
    ∃ (i : Nat) (e : Entry), es[i]? = some e ∧ e.action = .post ∧ e.buyerId = p.buyerId := by
  obtain ⟨⟨e, n⟩, hmem, heq⟩ := List.mem_map.mp (h.posts ▸ List.mem_map_of_mem hp)
  obtain ⟨hmem, hpost⟩ := List.mem_filter.mp hmem
  exact ⟨_, e, (List.mk_mem_zipIdx_iff_le_and_getElem?_sub.mp hmem).2, by simpa using hpost,
    congrArg (fun t => t.2.1) heq⟩

end Walk

/-- The entry about a participant's PING, once the winner is known. -/
structure PingEntry (lead : Lead) (r : AuctionResult) (bid : Bid) (e : Entry) : Prop where
  carried : e.auction = some r.id ∧ e.leadId = lead.id
  action : e.action = .ping
  buyerId : e.buyerId = bid.buyerId
  won : e.outcome = .won ↔ r.winningBuyerId = some bid.buyerId
  lost : e.outcome = .lost ↔ r.winningBuyerId ≠ some bid.buyerId ∧ bid.success = true
  none : e.outcome = .none ↔ r.winningBuyerId ≠ some bid.buyerId ∧ bid.success = false

/-- What an auction adds to the ledger. -/
structure AuditTrail [Transport ω] (x : Exchange ω) (lead : Lead) (now : Instant)
    (r : AuctionResult) (y : Exchange ω) : Prop where
  silent : lead.check ≠ .ok () ∨ x.participants lead = [] → y.ledger = x.ledger
  told : lead.check = .ok () → x.participants lead ≠ [] → ∃ walk pings,
    y.ledger = x.ledger ++ (walk ++ pings) ∧ Walk x lead now r walk ∧
      r.bids.map (·.buyerId) = (x.participants lead).map (·.buyer.id) ∧
      List.Forall₂ (PingEntry lead r) r.bids pings

/-! ### Every auction leaves its trail -/

namespace Exchange

theorem scheduleRetry_ledger (x : Exchange ω) (lead : Lead) (id : AuctionId) (ranked : List Bid)
    (posts : List PostResult) (now : Instant) :
    (x.scheduleRetry lead id ranked posts now).2.ledger = x.ledger := by
  unfold scheduleRetry
  split
  · rfl
  split
  · unfold enqueue
    split <;> rfl
  split <;> rfl

theorem recordPings_ledger (x : Exchange ω) (id : AuctionId) (lead : Lead)
    (pings : List PingResult) (winner : Option String) :
    (x.recordPings id lead pings winner).ledger =
      x.ledger ++ pings.map fun r => r.toEntry id lead.id winner :=
  (x.recordPings_appends id lead pings winner).ledger

variable [Transport ω]

/-- A lead's sale, as far as the ledger shows it, is the cascade down the ranking. -/
theorem sell_eq (x : Exchange ω) (lead : Lead) (id : AuctionId) (n : Nat) (bids ranked : List Bid)
    (now : Instant) :
    (x.sell lead id n bids ranked now).1.id = id ∧
      (x.sell lead id n bids ranked now).1.bids = bids ∧
      (x.sell lead id n bids ranked now).1.attempts = (x.cascade lead id now ranked).1 ∧
      (x.sell lead id n bids ranked now).1.sale = (x.cascade lead id now ranked).2.1 ∧
      (x.sell lead id n bids ranked now).2.ledger = (x.cascade lead id now ranked).2.2.ledger := by
  unfold sell
  rcases x.cascade lead id now ranked with ⟨posts, _ | s, y⟩
  · have hledger := y.interlude.scheduleRetry_ledger lead id ranked posts now
    have hpause := y.interlude_appends.ledger
    refine ⟨rfl, rfl, rfl, rfl, ?_⟩
    simpa [hpause] using hledger
  · exact ⟨rfl, rfl, rfl, rfl, rfl⟩

theorem runAuction_of_asked (x : Exchange ω) (lead : Lead) (now : Instant)
    (hvalid : lead.check = .ok ()) (hasked : x.participants lead ≠ []) :
    x.runAuction lead now = noteAuction
      (x.countAuction.auctionAmong lead (.issued x.auctions) (x.participants lead) now).2
      (x.countAuction.auctionAmong lead (.issued x.auctions) (x.participants lead) now).1 := by
  have hparticipants : x.countAuction.participants lead = x.participants lead := rfl
  simp only [runAuction, hvalid]
  split
  · exact (hasked ‹_›).elim
  · rfl

/-- An auction for which somebody was asked, as far as the ledger shows it, is the cascade down the
ranking, after which the entries about the PINGs are written. -/
theorem runAuction_eq (x : Exchange ω) (lead : Lead) (now : Instant)
    (hvalid : lead.check = .ok ()) (hasked : x.participants lead ≠ []) :
    ∃ pings, Attended x lead pings ∧
      (x.runAuction lead now).1.id = .issued x.auctions ∧
      (x.runAuction lead now).1.bids = pings.map (·.bid) ∧
      (x.runAuction lead now).1.attempts = ((x.afterPings lead now).cascade lead
        (.issued x.auctions) now (Bid.ranking (pings.map (·.bid)))).1 ∧
      (x.runAuction lead now).1.sale = ((x.afterPings lead now).cascade lead
        (.issued x.auctions) now (Bid.ranking (pings.map (·.bid)))).2.1 ∧
      (x.runAuction lead now).2.ledger = ((x.afterPings lead now).cascade lead
          (.issued x.auctions) now (Bid.ranking (pings.map (·.bid)))).2.2.ledger ++
        pings.map fun p => p.toEntry (.issued x.auctions) lead.id
          (x.runAuction lead now).1.winningBuyerId := by
  have hanswers := x.countAuction.pingAll_forall₂ Participant.answers_unasked
    Participant.answers_settle lead (x.participants lead) now
  rw [x.runAuction_of_asked lead now hvalid hasked, afterPings]
  rcases hpings : x.countAuction.pingAll lead (x.participants lead) now with ⟨pings, w⟩
  rw [hpings] at hanswers
  refine ⟨pings, ⟨hvalid, hasked, hanswers⟩, ?_⟩
  simp only [auctionAmong, hpings, noteAuction, recordPings_ledger]
  by_cases hranked : (Bid.ranking (pings.map (·.bid))).isEmpty = true
  · simp only [List.isEmpty_iff.mp hranked]
    exact ⟨rfl, rfl, rfl, rfl, rfl⟩
  · obtain ⟨hid, hbids, hattempts, hsale, hledger⟩ := w.sell_eq lead (.issued x.auctions)
      (x.participants lead).length (pings.map (·.bid)) (Bid.ranking (pings.map (·.bid))) now
    simp only [if_neg hranked]
    exact ⟨hid, hbids, hattempts, hsale, by rw [hledger]⟩

theorem afterPings_ledger (x : Exchange ω) (lead : Lead) (now : Instant) :
    (x.afterPings lead now).ledger = x.ledger := by
  have hframe := x.countAuction.pingAll_appends lead (x.participants lead) now
  rw [afterPings, hframe.ledger, List.append_nil]
  rfl

/-- The entries that a cascade after the PINGs leaves are the walk of its auction. -/
theorem walk_of_cascade {x : Exchange ω} {lead : Lead} {now : Instant} {r : AuctionResult}
    {es : Ledger}
    (hcourse : Cascade lead.id r.id x.ledger.length (Bid.ranking r.bids) r.attempts r.sale es)
    (hledger : ((x.afterPings lead now).cascade lead r.id now (Bid.ranking r.bids)).2.2.ledger =
      (x.afterPings lead now).ledger ++ es) : Walk x lead now r es where
  carried e he := ⟨hcourse.auction e he, hcourse.leadId_eq e he⟩
  bidders := by
    obtain ⟨left, hleft, hnone, hsome⟩ := hcourse.walked
    refine ⟨left, hleft, fun h => hnone (Option.map_eq_none_iff.mp h), fun winner h => ?_⟩
    obtain ⟨s, hs, rfl⟩ := Option.map_eq_some_iff.mp h
    exact hsome s hs
  actions e he := (hcourse.action e he).2
  posts := hcourse.posts_eq
  passedOver _ _ _ hbid he := cascade_turn hledger hbid he

omit [Transport ω] in
theorem pingEntry_toEntry (lead : Lead) (r : AuctionResult) (p : PingResult) :
    PingEntry lead r p.bid (p.toEntry r.id lead.id r.winningBuyerId) := by
  by_cases hwon : r.winningBuyerId = some p.bid.buyerId
  · constructor <;> simp [PingResult.toEntry, hwon]
  · cases hsuccess : p.bid.success <;> constructor <;>
      simp [PingResult.toEntry, hwon, hsuccess]

/-- **Every auction leaves a complete audit trail**: nothing if nobody was asked, else one entry
for each bidder who had its turn and then one for each PING, with the outcomes as they were. -/
theorem runAuction_auditTrail (x : Exchange ω) (lead : Lead) (now : Instant) :
    AuditTrail x lead now (x.runAuction lead now).1 (x.runAuction lead now).2 where
  silent hnobody := by
    have hspec := x.runAuction_spec lead now
    generalize x.runAuction lead now = outcome at hspec
    rcases outcome with ⟨r, y⟩
    have hattended (pings : List PingResult) : ¬Attended x lead pings := fun h =>
      hnobody.elim (fun hinvalid => hinvalid h.valid) h.asked
    cases hspec with
    | invalid _ hframe => exact hframe.ledger.trans (List.append_nil _)
    | unattended _ _ hframe => exact hframe.ledger.trans (List.append_nil _)
    | unsold h => exact (hattended _ h).elim
    | sold h => exact (hattended _ h).elim
    | exhausted h => exact (hattended _ h).elim
  told hvalid hasked := by
    obtain ⟨pings, hattended, hid, hbids, hattempts, hsale, hledger⟩ :=
      x.runAuction_eq lead now hvalid hasked
    generalize x.runAuction lead now = outcome at *
    rcases outcome with ⟨r, y⟩
    simp only at hid hbids hattempts hsale hledger
    rw [← hid, ← hbids] at hattempts hsale hledger
    obtain ⟨walk, hcourse, hframe⟩ := (x.afterPings lead now).cascade_spec lead r.id now
      (Bid.ranking r.bids) rfl
    rw [← hattempts, ← hsale, x.afterPings_ledger] at hcourse
    refine ⟨walk, pings.map fun p => p.toEntry r.id lead.id r.winningBuyerId, ?_,
      walk_of_cascade hcourse hframe.ledger, ?_, ?_⟩
    · rw [hledger, hframe.ledger, x.afterPings_ledger, List.append_assoc]
    · rw [hbids]
      exact hattended.bids_buyerIds
    · rw [hbids, List.forall₂_map_left_iff, List.forall₂_map_right_iff]
      exact List.forall₂_same.mpr fun p _ => pingEntry_toEntry lead r p

end Exchange

end PingPost
