import PingPost.Proofs.AuditTrail
import PingPost.Proofs.DoubleSale
import PingPost.Proofs.Settlement

/-!
How the books move.

Every step but a sweep moves the books in one of three ways (`Exchange.Moves`): a note is made about
a webhook or nothing is touched; an auction is run; or an item is taken out of the backlog and
treated. `Exchange.step_moves` says so once, and what is kept by every move is kept by every run.

An auction makes at most one item (`Exchange.Handed`). The item has made no attempt, and its origin
is the entry about the POST of its buyer in that auction, if there was one.
-/

namespace PingPost

open Exchange

variable {ω : Type}

/-! ### Entries about POSTs and retries -/

/-- An entry about the POST of a buyer in an auction. -/
def Entry.Posts (e : Entry) (id : AuctionId) (buyerId : String) : Prop :=
  e.auction = some id ∧ e.action = .post ∧ e.buyerId = buyerId

/-- An entry about a retry after an auction. -/
def Entry.Retries (e : Entry) (id : AuctionId) : Prop :=
  e.auction = some id ∧ e.action = .retry

instance (e : Entry) (id : AuctionId) (buyerId : String) : Decidable (e.Posts id buyerId) :=
  inferInstanceAs (Decidable (_ ∧ _))

instance (e : Entry) (id : AuctionId) : Decidable (e.Retries id) :=
  inferInstanceAs (Decidable (_ ∧ _))

/-- Whether a position is that of the entry about the POST of a buyer, or there is none. -/
def Ledger.Origin (l : Ledger) (start : Nat) (id : AuctionId) (buyerId : String)
    (origin : Option Nat) : Prop :=
  ∀ n, origin = some n ↔ ∃ e, (e, n) ∈ l.zipIdx start ∧ e.Posts id buyerId

section

variable {l l' : Ledger} {start : Nat} {id : AuctionId} {buyerId : String} {origin : Option Nat}

theorem Ledger.Origin.append (h : l.Origin start id buyerId origin)
    (hnone : ∀ e ∈ l', ¬e.Posts id buyerId) : (l ++ l').Origin start id buyerId origin := by
  intro n
  rw [h n, List.zipIdx_append]
  refine exists_congr fun e => and_congr_left fun hposts => ?_
  rw [List.mem_append]
  exact (or_iff_left fun hmem => hnone e (List.fst_mem_of_mem_zipIdx hmem) hposts).symm

theorem Ledger.Origin.prepend (h : l.Origin (start + l'.length) id buyerId origin)
    (hnone : ∀ e ∈ l', ¬e.Posts id buyerId) : (l' ++ l).Origin start id buyerId origin := by
  intro n
  rw [h n, List.zipIdx_append]
  refine exists_congr fun e => and_congr_left fun hposts => ?_
  rw [List.mem_append]
  exact (or_iff_right fun hmem => hnone e (List.fst_mem_of_mem_zipIdx hmem) hposts).symm

end

/-! ### The origin of an item -/

theorem postOf?_entry {posts : List PostResult} (hposts : (posts.map (·.buyerId)).Nodup)
    {buyerId : String} {n : Nat} :
    (postOf? posts buyerId).bind (·.entry) = some n ↔
      ∃ p ∈ posts, p.buyerId = buyerId ∧ p.entry = some n := by
  rw [Option.bind_eq_some_iff]
  constructor
  · rintro ⟨p, hp, hentry⟩
    exact ⟨p, List.mem_of_find?_eq_some hp, by simpa using List.find?_some hp, hentry⟩
  · rintro ⟨p, hp, hbuyer, hentry⟩
    obtain ⟨q, hq⟩ : ∃ q, postOf? posts buyerId = some q :=
      Option.isSome_iff_exists.mp (List.find?_isSome.mpr ⟨p, hp, by simpa using hbuyer⟩)
    have hqbuyer : q.buyerId = buyerId := by simpa using List.find?_some hq
    obtain rfl := List.inj_on_of_nodup_map hposts (List.mem_of_find?_eq_some hq) hp
      (hqbuyer.trans hbuyer.symm)
    exact ⟨q, hq, hentry⟩

/-- The result of a buyer's POST names the entry about it. -/
theorem Cascade.origin {leadId : String} {id : AuctionId} {n : Nat} {ranked : List Bid}
    {posts : List PostResult} {sale : Option Sale} {es : Ledger}
    (h : Cascade leadId id n ranked posts sale es) (hposts : (posts.map (·.buyerId)).Nodup)
    (buyerId : String) :
    Ledger.Origin es n id buyerId ((postOf? posts buyerId).bind (·.entry)) := by
  intro m
  calc (postOf? posts buyerId).bind (·.entry) = some m
      ↔ ∃ p ∈ posts, p.buyerId = buyerId ∧ p.entry = some m := postOf?_entry hposts
    _ ↔ ∃ outcome, (some m, buyerId, outcome) ∈
          posts.map fun p => (p.entry, p.buyerId, if p.success then Outcome.won else .lost) := by
      constructor
      · rintro ⟨p, hp, rfl, hentry⟩
        exact ⟨_, List.mem_map.mpr ⟨p, hp, by rw [hentry]⟩⟩
      · rintro ⟨outcome, hmem⟩
        obtain ⟨p, hp, heq⟩ := List.mem_map.mp hmem
        simp only [Prod.mk.injEq] at heq
        exact ⟨p, hp, heq.2.1, heq.1⟩
    _ ↔ ∃ e, (e, m) ∈ es.zipIdx n ∧ e.Posts id buyerId := by
      rw [← h.posts_eq]
      constructor
      · rintro ⟨outcome, hmem⟩
        obtain ⟨⟨e, i⟩, he, heq⟩ := List.mem_map.mp hmem
        simp only [Prod.mk.injEq, Option.some.injEq] at heq
        obtain ⟨rfl, hbuyer, -⟩ := heq
        obtain ⟨hmem, hpost⟩ := List.mem_filter.mp he
        exact ⟨e, hmem, h.auction e (List.fst_mem_of_mem_zipIdx hmem), by simpa using hpost, hbuyer⟩
      · rintro ⟨e, hmem, -, hpost, hbuyer⟩
        refine ⟨e.outcome, List.mem_map.mpr ⟨(e, m), List.mem_filter.mpr ⟨hmem, ?_⟩, ?_⟩⟩
        · simpa using hpost
        · rw [hbuyer]

/-! ### What an auction hands over -/

/-- An item that was made of an auction's lead after some POSTs, and not tried yet. -/
structure RetryItem.MadeAfter (item : RetryItem) (id : AuctionId) (posts : List PostResult) :
    Prop where
  auction : item.auction = some id
  attempts : item.attempts = 0
  origin : item.origin = (postOf? posts item.buyerId).bind (·.entry)

/-- An item that was made of an auction's lead: its origin is the entry about the POST of its buyer
among those that were added. -/
structure RetryItem.MadeIn (item : RetryItem) (id : AuctionId) (start : Nat) (es : Ledger) :
    Prop where
  auction : item.auction = some id
  attempts : item.attempts = 0
  origin : es.Origin start id item.buyerId item.origin

namespace Exchange

/-- The ways in which a lead may be handed over, with the item that is made of it. -/
inductive Handed (x y : Exchange ω) (made : RetryItem → Prop) : Prop where
  | dropped : y.backlog = x.backlog → y.deadLetters = x.deadLetters → Handed x y made
  | queued {item : RetryItem} :
      made item → 0 < item.policy.maxAttempts → y.backlog = x.backlog.put item.key item →
      y.deadLetters = x.deadLetters → Handed x y made
  | givenUp {item : RetryItem} {reason : GivenUp} :
      made item → reason.message ≠ GivenUp.exhausted.message → y.backlog = x.backlog →
      y.deadLetters = x.deadLetters ++ [⟨item, reason⟩] → Handed x y made

theorem Handed.imp {x y : Exchange ω} {made made' : RetryItem → Prop} (h : Handed x y made)
    (himp : ∀ item, made item → made' item) : Handed x y made' := by
  cases h with
  | dropped hbacklog hletters => exact .dropped hbacklog hletters
  | queued hmade hattempts hbacklog hletters =>
    exact .queued (himp _ hmade) hattempts hbacklog hletters
  | givenUp hmade hreason hbacklog hletters =>
    exact .givenUp (himp _ hmade) hreason hbacklog hletters

/-- What the books were before and are afterwards decides alone. -/
theorem Handed.congr {x y w z : Exchange ω} {made : RetryItem → Prop} (h : Handed w z made)
    (hbacklog : w.backlog = x.backlog) (hletters : w.deadLetters = x.deadLetters)
    (hbacklog' : y.backlog = z.backlog) (hletters' : y.deadLetters = z.deadLetters) :
    Handed x y made := by
  cases h with
  | dropped hb hd =>
    exact .dropped (by rw [hbacklog', hb, hbacklog]) (by rw [hletters', hd, hletters])
  | queued hmade hattempts hb hd =>
    exact .queued hmade hattempts (by rw [hbacklog', hb, hbacklog])
      (by rw [hletters', hd, hletters])
  | givenUp hmade hreason hb hd =>
    exact .givenUp hmade hreason (by rw [hbacklog', hb, hbacklog]) (by rw [hletters', hd, hletters])

theorem answered_message_ne (status : PostStatus) :
    (GivenUp.answered status).message ≠ GivenUp.exhausted.message := by
  cases status <;> decide

theorem made_of_retryCandidate? {x : Exchange ω} {lead : Lead} {id : AuctionId}
    {posts : List PostResult} {now : Instant} {ranked : List Bid} {item : RetryItem}
    (h : x.retryCandidate? lead id posts now ranked = some item) :
    item.MadeAfter id posts := by
  obtain ⟨-, bid, -, -, hbid, -⟩ := List.findSome?_eq_some_iff.mp h
  simp only [retryAt?] at hbid
  split at hbid
  · cases hbid
  · obtain ⟨⟨buyer, service⟩, hstanding, rfl⟩ := Option.map_eq_some_iff.mp hbid
    refine ⟨rfl, rfl, ?_⟩
    simp only [retryItem, RetryItem.fresh, Registry.id_of_standing? hstanding]

theorem made_giveUpItem (x : Exchange ω) (lead : Lead) (id : AuctionId) (posts : List PostResult)
    (now : Instant) (top : Bid) :
    (x.giveUpItem lead id posts now top).1.MadeAfter id posts ∧
      (x.giveUpItem lead id posts now top).2.message ≠ GivenUp.exhausted.message := by
  have hnone : GivenUp.noBidder.message ≠ GivenUp.exhausted.message := by decide
  simp only [giveUpItem]
  split
  · rename_i p hpost
    exact ⟨⟨rfl, rfl, by simp [RetryItem.fresh, hpost]⟩, answered_message_ne _⟩
  · rename_i hpost
    exact ⟨⟨rfl, rfl, by simp [RetryItem.fresh, hpost]⟩, hnone⟩

theorem scheduleRetry_handed {x y : Exchange ω} {lead : Lead} {id : AuctionId} {ranked : List Bid}
    {posts : List PostResult} {now : Instant} {queued : Bool}
    (h : x.scheduleRetry lead id ranked posts now = (queued, y)) :
    Handed x y fun item => item.MadeAfter id posts := by
  unfold scheduleRetry at h
  split at h
  · cases h
    exact .dropped rfl rfl
  split at h
  · rename_i item hitem
    have hmade := made_of_retryCandidate? hitem
    unfold enqueue at h
    split at h
    · cases h
      exact .givenUp hmade (by decide) rfl rfl
    · cases h
      exact .queued hmade (Nat.pos_of_ne_zero ‹_›) rfl rfl
  cases ranked with
  | nil =>
    cases h
    exact .dropped rfl rfl
  | cons top rest =>
    cases h
    obtain ⟨hmade, hreason⟩ := x.made_giveUpItem lead id posts now top
    exact .givenUp hmade hreason rfl rfl

/-! ### The moves -/

/-- An auction was run: its entries were added, and its lead was handed over. -/
structure Ran (x : Exchange ω) (es : Ledger) (y : Exchange ω) : Prop where
  ledger : y.ledger = x.ledger ++ es
  auctions : y.auctions = x.auctions + 1
  entries : ∀ e ∈ es, e.auction = some (.issued x.auctions) ∧ e.action ≠ .retry ∧ e.retryCount = 0
  handed : Handed x y fun item => item.MadeIn (.issued x.auctions) x.ledger.length es

/-- The ways in which the books may move. -/
inductive Moves (x : Exchange ω) : Exchange ω → Prop where
  | noted {es : Ledger} {y : Exchange ω} :
      (∀ e ∈ es, e.auction = none ∧ e.action = .webhook ∧ e.retryCount = 0) → x.Appends es y →
      Moves x y
  | ran {es : Ledger} {y : Exchange ω} : Ran x es y → Moves x y
  | treated {key : RetryKey} {item : RetryItem} {now : Instant} {attempted : Bool}
      {fate : SweepEnd} {y : Exchange ω} :
      x.backlog.get? key = some item → Treated (x.without key) item now (attempted, fate, y) →
      Moves x y

theorem moves_of_appends {x y : Exchange ω} (h : x.Appends [] y) : Moves x y :=
  .noted (by simp) h

/-- The entries about the PINGs are the auction's own. -/
theorem pings_entries (id : AuctionId) (leadId : String) (pings : List PingResult)
    (winner : Option String) : ∀ e ∈ pings.map fun r => r.toEntry id leadId winner,
      e.auction = some id ∧ e.action ≠ .retry ∧ e.retryCount = 0 :=
  List.forall_mem_map.mpr fun _ _ => ⟨rfl, by simp [PingResult.toEntry], rfl⟩

/-- The entries of a cascade are the auction's own. -/
theorem cascade_entries {leadId : String} {id : AuctionId} {n : Nat} {ranked : List Bid}
    {posts : List PostResult} {sale : Option Sale} {es : Ledger}
    (h : Cascade leadId id n ranked posts sale es) :
    ∀ e ∈ es, e.auction = some id ∧ e.action ≠ .retry ∧ e.retryCount = 0 := by
  intro e he
  obtain ⟨hcount, haction⟩ := h.action e he
  refine ⟨h.auction e he, ?_, hcount⟩
  rcases haction with haction | ⟨haction, -⟩ <;> rw [haction] <;> decide

variable [Transport ω]

/-- Every auction makes its move. -/
theorem runAuction_moves (x : Exchange ω) (lead : Lead) (now : Instant) :
    Moves x (x.runAuction lead now).2 := by
  have hspec := x.runAuction_spec lead now
  generalize x.runAuction lead now = outcome at hspec ⊢
  rcases outcome with ⟨r, y⟩
  cases hspec with
  | invalid _ hframe =>
    exact .ran ⟨hframe.ledger, hframe.auctions, by simp, .dropped hframe.backlog hframe.deadLetters⟩
  | unattended _ _ hframe =>
    exact .ran ⟨hframe.ledger, hframe.auctions, by simp, .dropped hframe.backlog hframe.deadLetters⟩
  | unsold _ _ hframe =>
    exact .ran ⟨hframe.ledger, hframe.auctions, pings_entries _ _ _ _,
      .dropped hframe.backlog hframe.deadLetters⟩
  | sold _ hcourse hframe =>
    exact .ran ⟨hframe.ledger, hframe.auctions,
      List.forall_mem_append.mpr ⟨cascade_entries hcourse, pings_entries _ _ _ _⟩,
      .dropped hframe.backlog hframe.deadLetters⟩
  | @exhausted pings posts es w z y queued hattended hne hcourse hbefore hretry hafter =>
    have hposts := hattended.ranking_buyerIds_nodup.sublist hcourse.sublist
    have hledger := w.scheduleRetry_ledger lead (.issued x.auctions)
      (Bid.ranking (pings.map (·.bid))) posts now
    have hauctions := w.scheduleRetry_auctions lead (.issued x.auctions)
      (Bid.ranking (pings.map (·.bid))) posts now
    simp only [hretry] at hledger hauctions
    have hentries := List.forall_mem_append.mpr
      ⟨cascade_entries hcourse, pings_entries (.issued x.auctions) lead.id pings none⟩
    refine .ran ⟨?_, ?_, hentries, ?_⟩
    · rw [hafter.ledger, hledger, hbefore.ledger, List.append_assoc]
      rfl
    · rw [hafter.auctions, hauctions, hbefore.auctions]
      rfl
    · have hhanded : Handed x y fun item => item.MadeAfter (.issued x.auctions) posts :=
        (scheduleRetry_handed hretry).congr hbefore.backlog hbefore.deadLetters hafter.backlog
          hafter.deadLetters
      refine hhanded.imp fun item hmade => ?_
      refine ⟨hmade.auction, hmade.attempts, hmade.origin ▸ ?_⟩
      refine (hcourse.origin hposts item.buyerId).append (List.forall_mem_map.mpr ?_)
      rintro p - ⟨-, haction, -⟩
      cases haction

/-- An item that a sweep looks at is treated, if it is still there. -/
theorem sweepItem_treated (x : Exchange ω) (key : RetryKey) (now clock : Instant) :
    x.step (.sweepItem key now clock) = x ∨
      ∃ item attempted fate, x.backlog.get? key = some item ∧ Treated (x.without key) item now
        (attempted, fate, x.step (.sweepItem key now clock)) := by
  simp only [step]
  cases hitem : x.backlog.get? key with
  | none =>
    refine .inl ?_
    simp only [sweepKey, hitem]
  | some item =>
    rw [sweepKey_eq .empty now clock hitem]
    exact .inr ⟨item, _, _, rfl, (x.without key).treat_spec item now clock⟩

/-- Every step but a sweep moves the books in one of the ways. -/
theorem step_moves (x : Exchange ω) {event : Event ω}
    (hsimple : ∀ now clock, event ≠ .sweep now clock) : Moves x (x.step event) := by
  cases event with
  | auction lead now => exact x.runAuction_moves lead now
  | request lead now =>
    simp only [step, requestAuction]
    split
    · exact moves_of_appends (.refl x)
    · exact x.runAuction_moves lead now
  | sweep now clock => exact (hsimple now clock rfl).elim
  | sweepItem key now clock =>
    rcases x.sweepItem_treated key now clock with hsame | ⟨item, _, _, hitem, htreated⟩
    · rw [hsame]
      exact moves_of_appends (.refl x)
    · exact .treated hitem htreated
  | upsert buyerId buyer => exact moves_of_appends (x.upsertBuyer_appends buyerId buyer)
  | webhook buyerId signature timestamp body now =>
    obtain ⟨es, hes, hframe⟩ := x.receiveWebhook_appends buyerId signature timestamp body now
    exact .noted hes hframe
  | preview buyerId kind lead now =>
    exact moves_of_appends (x.preview_appends buyerId kind lead now)
  | others act => exact moves_of_appends ⟨by simp [step], rfl, rfl, rfl⟩

end Exchange

end PingPost
