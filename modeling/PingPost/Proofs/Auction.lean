import PingPost.Proofs.Cascade
import PingPost.Proofs.Pings

/-!
The course of an auction.

An auction goes one of five ways (`Exchange.Auctioned`): the lead is invalid, there is nobody to
ask, nobody bids, a bidder takes the lead, or no bidder does and the lead is handed over to the
backlog. `Exchange.runAuction_spec` says that every auction does, and with what result and books.
All who are asked are different buyers, and each of them answers for itself
(`Participant.Answers`), so the bidders of a ranking are different too.
-/

namespace PingPost

open Exchange

/-! ### Who is asked -/

/-- A choice that keeps a feature of the items keeps the order of the features. -/
theorem map_filterMap_sublist {α β γ : Type} {f : α → Option β} {g : β → γ} {h : α → γ}
    (hf : ∀ a b, f a = some b → g b = h a) (l : List α) :
    ((l.filterMap f).map g).Sublist (l.map h) := by
  induction l with
  | nil => exact .slnil
  | cons a l ih =>
    cases hfa : f a with
    | none =>
      rw [List.filterMap_cons_none hfa]
      exact ih.cons _
    | some b =>
      rw [List.filterMap_cons_some hfa, List.map_cons, hf a b hfa]
      exact ih.cons_cons _

theorem Registry.candidates_ids_nodup (r : Registry) (lead : Lead) :
    ((r.candidates lead).map (·.2.id)).Nodup := by
  have hids : ((r.candidates lead).map (·.2.id)).Sublist (r.entries.map (·.2.id)) := by
    refine map_filterMap_sublist (fun e c hc => ?_) _
    obtain ⟨s, -, rfl⟩ := Option.map_eq_some_iff.mp hc
    rfl
  have hkeys : r.entries.map (·.2.id) = r.entries.keys := List.map_congr_left r.keyed
  exact (hkeys ▸ r.ordered.keys_nodup).sublist hids

/-- A lead may be offered to different buyers only. -/
theorem Registry.eligible_ids_nodup (r : Registry) (lead : Lead) :
    ((r.eligible lead).map (·.id)).Nodup := by
  have hperm := (List.mergeSort_perm (r.candidates lead) precedes).map (·.2.id)
  rw [eligible, List.map_map]
  exact hperm.nodup_iff.mpr (r.candidates_ids_nodup lead)

/-- What came of a participant's PING is a bid of that buyer, and no usable one if it is late. -/
structure Participant.Answers (p : Participant) (r : PingResult) : Prop where
  buyerId : r.bid.buyerId = p.buyer.id
  late : r.bid.timedOut = true → r.bid.success = false

namespace Participant

theorem answers_unasked (p : Participant) (e : TemplateError) : p.Answers (p.unasked e) :=
  ⟨rfl, fun _ => rfl⟩

theorem answers_unanswered (p : Participant) (e : TransportError) (elapsedMs : Nat) :
    p.Answers (p.unanswered e elapsedMs) := by
  unfold unanswered
  dsimp only
  split <;> exact ⟨rfl, fun _ => rfl⟩

theorem priced_buyerId (bid : Bid) (price : BidPrice) :
    (priced bid price).buyerId = bid.buyerId := by
  cases price <;> rfl

theorem priced_timedOut (bid : Bid) (price : BidPrice) :
    (priced bid price).timedOut = bid.timedOut := by
  cases price <;> rfl

theorem answers_answered (p : Participant) (reply : Reply) (a : PingAnswer) (facts : Json)
    (elapsedMs : Nat) : p.Answers (p.answered reply a facts elapsedMs) := by
  unfold answered
  dsimp only
  split
  · refine ⟨priced_buyerId _ _, fun h => ?_⟩
    rw [priced_timedOut] at h
    cases h
  · exact ⟨rfl, fun _ => rfl⟩

theorem answers_settle {ω : Type} (x : Exchange ω) (facts : Json) (f : Flying ω) :
    f.participant.Answers (Board.settle x facts f).1 := by
  unfold Board.settle
  dsimp only
  split
  · exact f.participant.answers_unanswered (.timeout f.participant.service.endpoints.pingTimeoutMs)
      f.flight.measuredMs
  split
  · exact f.participant.answers_unanswered _ f.flight.measuredMs
  · exact f.participant.answers_answered _ _ facts f.flight.measuredMs

end Participant

section

variable {ω : Type} [Transport ω] {x : Exchange ω} {lead : Lead}

/-- All who are asked are different buyers. -/
theorem Exchange.participants_ids_nodup (x : Exchange ω) (lead : Lead) :
    ((x.participants lead).map (·.buyer.id)).Nodup := by
  refine (x.registry.eligible_ids_nodup lead).sublist (map_filterMap_sublist (fun b p hp => ?_) _)
  split at hp
  · obtain ⟨s, -, rfl⟩ := Option.map_eq_some_iff.mp hp
    rfl
  · cases hp

/-- What came of the PINGs of an auction. -/
def Exchange.pings (x : Exchange ω) (lead : Lead) (now : Instant) : List PingResult × Exchange ω :=
  x.countAuction.pingAll lead (x.participants lead) now

theorem Exchange.pings_answers (x : Exchange ω) (lead : Lead) (now : Instant) :
    List.Forall₂ Participant.Answers (x.participants lead) (x.pings lead now).1 :=
  x.countAuction.pingAll_forall₂ Participant.answers_unasked Participant.answers_settle lead
    (x.participants lead) now

theorem Participant.answers_buyerIds {ps : List Participant} {pings : List PingResult}
    (h : List.Forall₂ Participant.Answers ps pings) :
    (pings.map (·.bid)).map (·.buyerId) = ps.map (·.buyer.id) := by
  rw [List.map_map, ← List.forall₂_eq_eq_eq, List.forall₂_map_left_iff,
    List.forall₂_map_right_iff]
  exact h.flip.imp fun r p hr => hr.buyerId

/-- A valid lead for which somebody was asked, with what came of the PINGs. -/
structure Attended (x : Exchange ω) (lead : Lead) (pings : List PingResult) : Prop where
  valid : lead.check = .ok ()
  asked : x.participants lead ≠ []
  answers : List.Forall₂ Participant.Answers (x.participants lead) pings

namespace Attended

variable {pings : List PingResult}

theorem length_eq (h : Attended x lead pings) : pings.length = (x.participants lead).length :=
  h.answers.length_eq.symm

theorem ne_nil (h : Attended x lead pings) : pings ≠ [] := by
  rintro rfl
  exact h.asked (List.forall₂_nil_right_iff.mp h.answers)

/-- The bids are those of the buyers who were asked. -/
theorem bids_buyerIds (h : Attended x lead pings) :
    (pings.map (·.bid)).map (·.buyerId) = (x.participants lead).map (·.buyer.id) :=
  Participant.answers_buyerIds h.answers

/-- The bidders of the ranking are different buyers. -/
theorem ranking_buyerIds_nodup (h : Attended x lead pings) :
    ((Bid.ranking (pings.map (·.bid))).map (·.buyerId)).Nodup := by
  have hbids := h.bids_buyerIds ▸ x.participants_ids_nodup lead
  have hperm := (Bid.ranking_perm (pings.map (·.bid))).map (·.buyerId)
  exact hperm.nodup_iff.mpr (hbids.sublist (List.filter_sublist.map _))

/-- A bid that came too late is none. -/
theorem not_usable_of_timedOut (h : Attended x lead pings) :
    ∀ b ∈ pings.map (·.bid), b.timedOut = true → b.usable? = none := by
  have hlate : ∀ r ∈ pings, r.bid.timedOut = true → r.bid.success = false := by
    obtain ⟨-, -, hanswers⟩ := h
    generalize x.participants lead = ps at hanswers
    induction hanswers with
    | nil => simp
    | cons hr _ ih => exact List.forall_mem_cons.mpr ⟨hr.late, ih⟩
  intro b hb hb'
  obtain ⟨r, hr, rfl⟩ := List.mem_map.mp hb
  simp [Bid.usable?, hlate r hr hb']

end Attended

end

/-! ### How an auction goes -/

namespace Exchange

variable {ω : Type}

theorem recordPings_registry (x : Exchange ω) (id : AuctionId) (lead : Lead)
    (pings : List PingResult) (winner : Option String) :
    (x.recordPings id lead pings winner).registry = x.registry := by
  unfold recordPings
  induction pings generalizing x with
  | nil => rfl
  | cons r pings ih => exact ih _

theorem noteAuction_appends (x : Exchange ω) (r : AuctionResult) :
    x.Appends [] (x.noteAuction r).2 :=
  ⟨by simp [noteAuction], rfl, rfl, rfl⟩

variable [Transport ω]

/-- The ways an auction may go, with its result and the exchange afterwards. -/
inductive Auctioned (x : Exchange ω) (lead : Lead) (now : Instant) :
    AuctionResult → Exchange ω → Prop where
  | invalid {e : FieldError} {y : Exchange ω} :
      lead.check = .error e → x.countAuction.Appends [] y →
      Auctioned x lead now
        (.unsold (.issued x.auctions) lead.id .failed 0 [] (some (.invalidLead e))) y
  | unattended {y : Exchange ω} :
      lead.check = .ok () → x.participants lead = [] → x.countAuction.Appends [] y →
      Auctioned x lead now
        (.unsold (.issued x.auctions) lead.id .noBids 0 [] (some .noBuyers)) y
  | unsold {pings : List PingResult} {y : Exchange ω} :
      Attended x lead pings → Bid.ranking (pings.map (·.bid)) = [] →
      x.countAuction.Appends (pings.map fun r => r.toEntry (.issued x.auctions) lead.id none) y →
      Auctioned x lead now
        (.unsold (.issued x.auctions) lead.id (unsoldStatus (pings.map (·.bid))) pings.length
          (pings.map (·.bid)) none) y
  | sold {pings : List PingResult} {posts : List PostResult} {s : Sale} {es : Ledger}
      {y : Exchange ω} :
      Attended x lead pings →
      Cascade lead.id (.issued x.auctions) x.ledger.length (Bid.ranking (pings.map (·.bid))) posts
        (some s) es →
      x.countAuction.Appends
        (es ++ pings.map fun r => r.toEntry (.issued x.auctions) lead.id (some s.buyerId)) y →
      Auctioned x lead now
        ⟨.issued x.auctions, lead.id, .completed, some s, pings.map (·.bid), pings.length, posts,
          some s.post, false, none⟩ y
  | exhausted {pings : List PingResult} {posts : List PostResult} {es : Ledger}
      {w z y : Exchange ω} {queued : Bool} :
      Attended x lead pings → Bid.ranking (pings.map (·.bid)) ≠ [] →
      Cascade lead.id (.issued x.auctions) x.ledger.length (Bid.ranking (pings.map (·.bid))) posts
        none es →
      x.countAuction.Appends es w →
      w.scheduleRetry lead (.issued x.auctions) (Bid.ranking (pings.map (·.bid))) posts now =
        (queued, z) →
      z.Appends (pings.map fun r => r.toEntry (.issued x.auctions) lead.id none) y →
      y.registry = z.registry →
      Auctioned x lead now
        ⟨.issued x.auctions, lead.id, .failed, none, pings.map (·.bid), pings.length, posts,
          posts.getLast?, queued, some .exhausted⟩ y

/-- Where there is a ranking, the lead is sold or the cascade is exhausted. -/
theorem auctioned_of_sell {x w y z : Exchange ω} {lead : Lead} {now : Instant}
    {pings : List PingResult} {r : AuctionResult} (hattended : Attended x lead pings)
    (hframe : x.countAuction.Appends [] w) (hne : Bid.ranking (pings.map (·.bid)) ≠ [])
    (h : w.sell lead (.issued x.auctions) pings.length (pings.map (·.bid))
      (Bid.ranking (pings.map (·.bid))) now = (r, y))
    (hclose : y.Appends
      (pings.map fun p => p.toEntry (.issued x.auctions) lead.id r.winningBuyerId) z)
    (hregistry : z.registry = y.registry) : Auctioned x lead now r z := by
  rcases hcascade : w.cascade lead (.issued x.auctions) now (Bid.ranking (pings.map (·.bid)))
    with ⟨posts, sale, v⟩
  obtain ⟨es, hcourse, hcframe⟩ := w.cascade_spec _ _ _ _ hcascade
  have hstart : w.ledger.length = x.ledger.length := by
    rw [hframe.ledger, List.append_nil]
    rfl
  rw [hstart] at hcourse
  simp only [sell, hcascade] at h
  cases sale with
  | some s =>
    cases h
    exact .sold hattended hcourse (hframe.after (hcframe.trans hclose))
  | none =>
    have hpause := hframe.after (hcframe.before v.interlude_appends)
    rcases hretry : v.interlude.scheduleRetry lead (.issued x.auctions)
      (Bid.ranking (pings.map (·.bid))) posts now with ⟨queued, u⟩
    rw [hretry] at h
    cases h
    exact .exhausted hattended hne hcourse hpause hretry hclose hregistry

/-- Every auction goes one of the ways. -/
theorem runAuction_spec (x : Exchange ω) (lead : Lead) (now : Instant) :
    Auctioned x lead now (x.runAuction lead now).1 (x.runAuction lead now).2 := by
  simp only [runAuction]
  split
  · rename_i e he
    exact .invalid he (x.countAuction.noteAuction_appends _)
  rename_i hvalid
  split
  · rename_i hnone
    exact .unattended hvalid hnone (x.countAuction.noteAuction_appends _)
  · have hparticipants : x.countAuction.participants lead = x.participants lead := rfl
    rw [hparticipants]
    have hanswers := x.pings_answers lead now
    have hframe := x.countAuction.pingAll_appends lead (x.participants lead) now
    rcases hpings : x.countAuction.pingAll lead (x.participants lead) now with ⟨pings, w⟩
    rw [Exchange.pings, hpings] at hanswers
    rw [hpings] at hframe
    have hattended : Attended x lead pings := ⟨hvalid, ‹_›, hanswers⟩
    have hclose (v : Exchange ω) (winner : Option String) (r : AuctionResult) :=
      (v.recordPings_appends (.issued x.auctions) lead pings winner).before
        (noteAuction_appends _ r)
    simp only [auctionAmong, hpings, ← hattended.length_eq]
    by_cases hranked : (Bid.ranking (pings.map (·.bid))).isEmpty = true
    · simp only [if_pos hranked]
      exact .unsold hattended (List.isEmpty_iff.mp hranked) (hframe.after (hclose w none _))
    · rcases hsell : w.sell lead (.issued x.auctions) pings.length (pings.map (·.bid))
        (Bid.ranking (pings.map (·.bid))) now with ⟨r, y⟩
      simp only [if_neg hranked, hsell]
      exact auctioned_of_sell hattended hframe (mt List.isEmpty_iff.mpr hranked) hsell
        (hclose y r.winningBuyerId r) (y.recordPings_registry _ _ _ _)

end Exchange

end PingPost
