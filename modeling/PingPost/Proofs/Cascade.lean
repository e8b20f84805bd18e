import PingPost.Proofs.Books

/-!
The cascade: a lead is offered to the bidders of a ranking one after the other.

`Cascade` tells the course of a cascade as a relation between the ranking, the POSTs, the sale and
the entries that were added to the ledger: each bidder is skipped, or refuses the lead, or takes it
and ends the cascade. Every run of `Exchange.cascade` has such a course (`Exchange.cascade_spec`),
whatever the world does between the steps; all that is said about sales is read off the course.
-/

namespace PingPost

open Exchange

/-- The course of a cascade that starts when the ledger has some number of entries. -/
inductive Cascade (leadId : String) (id : AuctionId) :
    Nat → List Bid → List PostResult → Option Sale → Ledger → Prop where
  | exhausted {n : Nat} : Cascade leadId id n [] [] none []
  | skipped {n : Nat} {bid : Bid} {rest : List Bid} {posts : List PostResult}
      {sale : Option Sale} {es : Ledger} :
      Cascade leadId id (n + 1) rest posts sale es →
      Cascade leadId id n (bid :: rest) posts sale (skippedEntry id leadId bid :: es)
  | refused {n : Nat} {bid : Bid} {rest : List Bid} {posts : List PostResult}
      {sale : Option Sale} {es : Ledger} {p : PostResult} {label : Label} :
      p.buyerId = bid.buyerId → p.entry = some n → p.success = false → label ≠ .delivered →
      Cascade leadId id (n + 1) rest posts sale es →
      Cascade leadId id n (bid :: rest) (p :: posts) sale
        (p.toEntry leadId label (.ofAuction id bid.amount) :: es)
  | taken {n : Nat} {bid : Bid} {rest : List Bid} {p : PostResult} :
      p.buyerId = bid.buyerId → p.entry = some n → p.success = true →
      Cascade leadId id n (bid :: rest) [p] (some ⟨bid.buyerId, bid.amount, p⟩)
        [p.toEntry leadId .delivered (.ofAuction id bid.amount)]

/-! ### Every cascade has a course -/

namespace Exchange

variable {ω : Type}

variable [Transport ω]

theorem id_of_offer? {x : Exchange ω} {buyerId : String} {lead : Lead} {buyer : Buyer}
    {service : Service} (h : x.offer? buyerId lead = some (buyer, service)) :
    buyer.id = buyerId := by
  unfold offer? at h
  split at h
  · exact Registry.id_of_standing? h
  · cases h

/-- A cascade adds the entries of its course to the books, and nothing else. -/
theorem cascade_spec (x : Exchange ω) (lead : Lead) (id : AuctionId) (now : Instant)
    (ranked : List Bid) {posts : List PostResult} {sale : Option Sale} {y : Exchange ω}
    (h : x.cascade lead id now ranked = (posts, sale, y)) :
    ∃ es, Cascade lead.id id x.ledger.length ranked posts sale es ∧ x.Appends es y := by
  -- Over all exchanges, since every step starts from the books the step before has left.
  induction ranked generalizing x posts sale y with
  | nil =>
    cases h
    exact ⟨[], .exhausted, .refl x⟩
  | cons bid rest ih =>
    have hpause := x.interlude_appends
    have hlen : x.interlude.ledger.length = x.ledger.length := by
      rw [hpause.ledger, List.append_nil]
    simp only [cascade] at h
    split at h
    · have hskip := hpause.after (x.interlude.record_appends (skippedEntry id lead.id bid))
      obtain ⟨es, hes, hframe⟩ := ih _ h
      rw [hskip.ledger, List.length_append, List.length_singleton] at hes
      exact ⟨_, .skipped hes, hskip.trans hframe⟩
    · rename_i buyer service hoffer
      rcases hdeliver : x.interlude.deliver lead buyer service (.ofAuction id bid.amount) now
        with ⟨p, z⟩
      rw [hdeliver] at h
      obtain ⟨hbuyer, hentry, label, hlabel, hpost⟩ := deliver_appends _ _ _ _ _ _ hdeliver
      rw [id_of_offer? hoffer] at hbuyer
      rw [hlen] at hentry
      have hpost := hpause.after hpost
      split at h
      · rename_i hsuccess
        cases h
        rw [hlabel.mpr hsuccess] at hpost
        rw [id_of_offer? hoffer]
        exact ⟨_, .taken hbuyer hentry hsuccess, hpost⟩
      · rename_i hsuccess
        rcases hrest : z.cascade lead id now rest with ⟨posts', sale', y'⟩
        rw [hrest] at h
        cases h
        obtain ⟨es, hes, hframe⟩ := ih z hrest
        rw [hpost.ledger, List.length_append, List.length_singleton] at hes
        have hrefused : p.success = false := Bool.eq_false_iff.mpr hsuccess
        exact ⟨_, .refused hbuyer hentry hrefused (mt hlabel.mp hsuccess) hes, hpost.trans hframe⟩

end Exchange

/-! ### What a course tells about the sale -/

namespace Cascade

variable {leadId : String} {id : AuctionId} {n : Nat} {ranked : List Bid}
  {posts : List PostResult} {sale : Option Sale} {es : Ledger}

/-- The POSTs go to bidders of the ranking, in its order. -/
theorem sublist (h : Cascade leadId id n ranked posts sale es) :
    (posts.map (·.buyerId)).Sublist (ranked.map (·.buyerId)) := by
  induction h with
  | exhausted => exact .slnil
  | skipped _ ih => exact ih.cons _
  | refused hbuyer _ _ _ _ ih =>
    simp only [List.map_cons, hbuyer]
    exact ih.cons_cons _
  | taken hbuyer _ _ =>
    simp only [List.map_cons, List.map_nil, hbuyer]
    exact (List.nil_sublist _).cons_cons _

/-- No POST but the last one may have sold the lead. -/
theorem not_success_of_mem_dropLast (h : Cascade leadId id n ranked posts sale es) :
    ∀ p ∈ posts.dropLast, p.success = false := by
  induction h with
  | exhausted => simp
  | skipped _ ih => exact ih
  | taken => simp
  | @refused n bid rest posts _ _ p _ _ _ hsuccess _ _ ih =>
    cases posts with
    | nil => simp
    | cons q posts =>
      rw [List.dropLast_cons_cons]
      exact List.forall_mem_cons.mpr ⟨hsuccess, ih⟩

/-- An exhausted cascade has sold nothing. -/
theorem not_success (h : Cascade leadId id n ranked posts none es) :
    ∀ p ∈ posts, p.success = false := by
  generalize hsale : none = sale at h
  induction h with
  | exhausted => simp
  | skipped _ ih => exact ih hsale
  | taken => cases hsale
  | refused _ _ hsuccess _ _ ih => exact List.forall_mem_cons.mpr ⟨hsuccess, ih hsale⟩

/-- The lead is sold to a bidder of the ranking for the amount of the bid, by the last POST. -/
theorem sold {s : Sale} (h : Cascade leadId id n ranked posts (some s) es) :
    posts.getLast? = some s.post ∧ s.post.success = true ∧ s.post.buyerId = s.buyerId ∧
      ∃ bid ∈ ranked, bid.buyerId = s.buyerId ∧ bid.amount = s.amount := by
  generalize hsale : some s = sale at h
  induction h with
  | exhausted => cases hsale
  | skipped _ ih =>
    obtain ⟨hlast, hsuccess, hbuyer, bid, hbid, hwin⟩ := ih hsale
    exact ⟨hlast, hsuccess, hbuyer, bid, List.mem_cons_of_mem _ hbid, hwin⟩
  | refused _ _ _ _ _ ih =>
    obtain ⟨hlast, hsuccess, hbuyer, bid, hbid, hwin⟩ := ih hsale
    refine ⟨?_, hsuccess, hbuyer, bid, List.mem_cons_of_mem _ hbid, hwin⟩
    rw [List.getLast?_cons, hlast, Option.getD_some]
  | taken hbuyer _ hsuccess =>
    cases hsale
    exact ⟨rfl, hsuccess, hbuyer, _, List.mem_cons_self, rfl, rfl⟩

/-- No other POST was successful than the one that sold the lead. -/
theorem eq_of_success {s : Sale} (h : Cascade leadId id n ranked posts (some s) es) :
    ∀ p ∈ posts, p.success = true → p = s.post := by
  generalize hsale : some s = sale at h
  induction h with
  | exhausted => cases hsale
  | skipped _ ih => exact ih hsale
  | refused _ _ hrefused _ _ ih =>
    refine List.forall_mem_cons.mpr ⟨fun hsuccess => ?_, ih hsale⟩
    rw [hrefused] at hsuccess
    cases hsuccess
  | taken =>
    cases hsale
    exact List.forall_mem_singleton.mpr fun _ => rfl

/-! ### What a course leaves in the ledger -/

/-- All entries carry the id of the auction. -/
theorem auction (h : Cascade leadId id n ranked posts sale es) :
    ∀ e ∈ es, e.auction = some id := by
  induction h with
  | exhausted => simp
  | skipped _ ih => exact List.forall_mem_cons.mpr ⟨rfl, ih⟩
  | refused _ _ _ _ _ ih => exact List.forall_mem_cons.mpr ⟨rfl, ih⟩
  | taken => exact List.forall_mem_singleton.mpr rfl

/-- An exhausted cascade leaves no entry that tells of a delivery. -/
theorem not_delivered (h : Cascade leadId id n ranked posts none es) :
    ∀ e ∈ es, e.label ≠ .delivered := by
  generalize hsale : none = sale at h
  induction h with
  | exhausted => simp
  | skipped _ ih => exact List.forall_mem_cons.mpr ⟨by simp [skippedEntry], ih hsale⟩
  | taken => cases hsale
  | refused _ _ _ hlabel _ ih => exact List.forall_mem_cons.mpr ⟨hlabel, ih hsale⟩

/-- No entry follows one that tells of a delivery. -/
theorem pairwise_not_delivered (h : Cascade leadId id n ranked posts sale es) :
    es.Pairwise fun e _ => e.label ≠ .delivered := by
  induction h with
  | exhausted => exact .nil
  | skipped _ ih => exact .cons (fun _ _ => by simp [skippedEntry]) ih
  | refused _ _ _ hlabel _ ih => exact .cons (fun _ _ => hlabel) ih
  | taken => exact List.pairwise_singleton _ _

end Cascade

end PingPost
