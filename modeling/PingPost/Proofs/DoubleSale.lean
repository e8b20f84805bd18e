import Mathlib.Data.List.Pairwise
import PingPost.Proofs.Auction
import PingPost.Proofs.Sweep

/-!
No lead is sold twice in an auction and the retries that follow it.

The ledger, the backlog and the count of auctions are tied together by `Exchange.Sound`: what the
ledger and the backlog name are auctions that were run, nothing was offered after it was sold,
nothing that was sold waits, and an auction has at most one item in the backlog. An auction that is
neither sold nor waiting is `Exchange.Open`; only the lead of such a one is ever offered or queued.
That is so for the next auction, since its id is new, and for the auction of an item that a sweep
has taken out, since it was the only one. Every step keeps `Exchange.Sound`.
-/

namespace PingPost

/-- An entry that tells of an offer of an auction's lead, in the auction or later. -/
def Entry.Offers (e : Entry) (id : AuctionId) : Prop :=
  e.auction = some id ∧ (e.action = .post ∨ e.action = .retry)

/-- An entry that tells of the sale of an auction's lead. -/
def Entry.Sells (e : Entry) (id : AuctionId) : Prop := e.Offers id ∧ e.label = .delivered

instance (e : Entry) (id : AuctionId) : Decidable (e.Offers id) :=
  inferInstanceAs (Decidable (_ ∧ _))

instance (e : Entry) (id : AuctionId) : Decidable (e.Sells id) :=
  inferInstanceAs (Decidable (_ ∧ _))

/-- Where of any two items the later one is not so if the earlier one is, at most one is. -/
theorem countP_le_one {α : Type} {p : α → Bool} {l : List α}
    (h : l.Pairwise fun a b => p a = true → p b ≠ true) : l.countP p ≤ 1 := by
  induction l with
  | nil => simp
  | cons a l ih =>
    obtain ⟨ha, hl⟩ := List.pairwise_cons.mp h
    by_cases hp : p a = true
    · have hnone : l.countP p = 0 := List.countP_eq_zero.mpr fun b hb => ha b hb hp
      simp [hp, hnone]
    · rw [List.countP_cons_of_neg hp]
      exact ih hl

namespace Exchange

variable {ω : Type}

/-- Whether an auction was run. -/
def Issued (x : Exchange ω) (id : AuctionId) : Prop := ∃ n < x.auctions, id = .issued n

/-- An auction that was run, and whose lead is neither sold nor waiting. -/
structure Open (x : Exchange ω) (id : AuctionId) : Prop where
  issued : x.Issued id
  unsold : ∀ e ∈ x.ledger, ¬e.Sells id
  idle : ∀ i ∈ x.backlog, i.2.auction ≠ some id

/-- The books agree with each other. -/
structure Sound (x : Exchange ω) : Prop where
  recorded : ∀ e ∈ x.ledger, ∀ id, e.auction = some id → x.Issued id
  waiting : ∀ i ∈ x.backlog, ∀ id, i.2.auction = some id → x.Issued id
  final : x.ledger.Pairwise fun e f => ∀ id, e.Sells id → ¬f.Offers id
  unsold : ∀ e ∈ x.ledger, ∀ id, e.Sells id → ∀ i ∈ x.backlog, i.2.auction ≠ some id
  single : x.backlog.Pairwise fun i j => ∀ id, i.2.auction = some id → j.2.auction ≠ some id

/-! ### Changes of the books -/

variable {x y : Exchange ω} {es : Ledger} {id : AuctionId} {key : RetryKey} {item : RetryItem}

theorem Issued.appends (h : x.Issued id) (hframe : x.Appends es y) : y.Issued id := by
  simpa only [Issued, hframe.auctions] using h

theorem Issued.mono (h : x.Issued id) (hle : x.auctions ≤ y.auctions) : y.Issued id := by
  obtain ⟨n, hn, rfl⟩ := h
  exact ⟨n, Nat.lt_of_lt_of_le hn hle, rfl⟩

/-- The id of the next auction is a new one. -/
theorem not_issued_next (x : Exchange ω) : ¬x.Issued (.issued x.auctions) := by
  rintro ⟨n, hn, heq⟩
  cases heq
  exact Nat.lt_irrefl _ hn

/-- An auction has at most one item in the backlog. -/
theorem Sound.eq_of_auction (h : x.Sound) {i j : RetryKey × RetryItem} (hi : i ∈ x.backlog)
    (hj : j ∈ x.backlog) (hid : i.2.auction = some id) (hid' : j.2.auction = some id) : i = j := by
  have hsymm : Std.Symm fun i j : RetryKey × RetryItem =>
      ∀ id, i.2.auction = some id → j.2.auction ≠ some id :=
    ⟨fun i j hij id hj hi => hij id hi hj⟩
  by_contra hne
  exact h.single.forall hi hj hne id hid hid'

/-- Entries may be added that are about auctions that were run, if only open ones are offered and
nothing is offered after it was sold. -/
theorem Sound.appends (h : x.Sound) (hframe : x.Appends es y)
    (hissued : ∀ e ∈ es, ∀ id, e.auction = some id → x.Issued id)
    (hopen : ∀ e ∈ es, ∀ id, e.Offers id → x.Open id)
    (hfinal : es.Pairwise fun e f => ∀ id, e.Sells id → ¬f.Offers id) : y.Sound where
  recorded := by
    rw [hframe.ledger]
    refine List.forall_mem_append.mpr ⟨fun e he id hid => ?_, fun e he id hid => ?_⟩
    · exact (h.recorded e he id hid).appends hframe
    · exact (hissued e he id hid).appends hframe
  waiting := by
    rw [hframe.backlog]
    exact fun i hi id hid => (h.waiting i hi id hid).appends hframe
  final := by
    rw [hframe.ledger]
    refine List.pairwise_append.mpr ⟨h.final, hfinal, fun e he f hf id hsells hoffers => ?_⟩
    exact (hopen f hf id hoffers).unsold e he hsells
  unsold := by
    rw [hframe.ledger, hframe.backlog]
    refine List.forall_mem_append.mpr ⟨h.unsold, fun e he id hsells => ?_⟩
    exact (hopen e he id hsells.1).idle
  single := by
    rw [hframe.backlog]
    exact h.single

/-- What is open stays so while it is not sold. -/
theorem Open.appends (h : x.Open id) (hframe : x.Appends es y) (hes : ∀ e ∈ es, ¬e.Sells id) :
    y.Open id where
  issued := h.issued.appends hframe
  unsold := by
    rw [hframe.ledger]
    exact List.forall_mem_append.mpr ⟨h.unsold, hes⟩
  idle := by
    rw [hframe.backlog]
    exact h.idle

/-- Entries may be added that tell of no offer. -/
theorem Sound.appends_of_not_offers (h : x.Sound) (hframe : x.Appends es y)
    (hissued : ∀ e ∈ es, ∀ id, e.auction = some id → x.Issued id)
    (hes : ∀ e ∈ es, ∀ id, ¬e.Offers id) : y.Sound := by
  refine h.appends hframe hissued (fun e he id hoffers => (hes e he id hoffers).elim) ?_
  exact List.pairwise_of_forall_mem_list fun e _ f hf id _ => hes f hf id

theorem Sound.frame (h : x.Sound) (hframe : x.Appends [] y) : y.Sound :=
  h.appends_of_not_offers hframe (by simp) (by simp)

theorem Sound.giveUp (h : x.Sound) (item : RetryItem) (reason : GivenUp) :
    (x.giveUp item reason).Sound :=
  ⟨h.recorded, h.waiting, h.final, h.unsold, h.single⟩

/-- An item of an open auction may be put into the backlog. -/
theorem Sound.put (h : x.Sound) (hopen : ∀ id, item.auction = some id → x.Open id) :
    Sound { x with backlog := x.backlog.put key item } where
  recorded := h.recorded
  waiting := by
    intro i hi id hid
    rcases Table.mem_put hi with rfl | hi
    · exact (hopen id hid).issued
    · exact h.waiting i hi id hid
  final := h.final
  unsold := by
    intro e he id hsells i hi
    rcases Table.mem_put hi with rfl | hi
    · exact fun hid => (hopen id hid).unsold e he hsells
    · exact h.unsold e he id hsells i hi
  single := by
    refine Table.pairwise_put h.single fun i hi => ⟨fun id hid hid' => ?_, fun id hid => ?_⟩
    · exact (hopen id hid').idle i hi hid
    · exact (hopen id hid).idle i hi

theorem Sound.enqueue (h : x.Sound) (hopen : ∀ id, item.auction = some id → x.Open id) :
    (x.enqueue item).Sound := by
  unfold Exchange.enqueue
  split
  · exact h.giveUp _ _
  · exact h.put hopen

theorem Sound.requeue (h : x.Sound) (hopen : ∀ id, item.auction = some id → x.Open id) :
    (x.requeue item).Sound := by
  unfold Exchange.requeue Table.putNew
  split
  · exact h
  · exact h.put hopen

/-- The auction of an item that is taken out of the backlog is open. -/
theorem Sound.take (h : x.Sound) (hitem : x.backlog.get? key = some item) :
    Sound { x with backlog := x.backlog.erase key } ∧
      ∀ id, item.auction = some id → Open { x with backlog := x.backlog.erase key } id := by
  have hmem := Table.mem_of_get? hitem
  have hsub := Table.erase_sublist key x.backlog
  -- The other items are of other auctions, since the item was the only one of its own.
  refine ⟨⟨h.recorded, fun i hi => h.waiting i (hsub.subset hi), h.final,
    fun e he id hsells i hi => h.unsold e he id hsells i (hsub.subset hi),
    h.single.sublist hsub⟩, fun id hid => ⟨h.waiting _ hmem id hid, ?_, ?_⟩⟩
  · exact fun e he hsells => h.unsold e he id hsells _ hmem hid
  · intro i hi
    obtain ⟨hi, hne⟩ := Table.mem_erase.mp hi
    exact fun hid' => hne (congrArg Prod.fst (h.eq_of_auction hi hmem hid' hid))

theorem Sound.recounts (h : x.Sound) (hframe : x.Recounts y) : y.Sound where
  recorded := by
    have hrecorded : ∀ e ∈ x.ledger.map Entry.uncounted, ∀ id, e.auction = some id →
        x.Issued id := List.forall_mem_map.mpr h.recorded
    rw [← hframe.ledger] at hrecorded
    intro e he id hid
    simpa only [Issued, hframe.auctions] using hrecorded e.uncounted (List.mem_map_of_mem he) id hid
  waiting := by simpa only [Issued, hframe.backlog, hframe.auctions] using h.waiting
  final := by
    have hfinal : (x.ledger.map Entry.uncounted).Pairwise fun e f =>
        ∀ id, e.Sells id → ¬f.Offers id := List.pairwise_map.mpr h.final
    rw [← hframe.ledger] at hfinal
    exact List.pairwise_map.mp hfinal
  unsold := by
    have hunsold : ∀ e ∈ x.ledger.map Entry.uncounted, ∀ id, e.Sells id →
        ∀ i ∈ x.backlog, i.2.auction ≠ some id := List.forall_mem_map.mpr h.unsold
    rw [← hframe.ledger, ← hframe.backlog] at hunsold
    exact fun e he => hunsold e.uncounted (List.mem_map_of_mem he)
  single := by
    rw [hframe.backlog]
    exact h.single

theorem Open.recounts (h : x.Open id) (hframe : x.Recounts y) : y.Open id where
  issued := by simpa only [Issued, hframe.auctions] using h.issued
  unsold := by
    have hunsold : ∀ e ∈ x.ledger.map Entry.uncounted, ¬e.Sells id :=
      List.forall_mem_map.mpr h.unsold
    rw [← hframe.ledger] at hunsold
    exact fun e he => hunsold e.uncounted (List.mem_map_of_mem he)
  idle := by
    rw [hframe.backlog]
    exact h.idle

/-! ### Sweeps -/

/-- An attempt at an item of an open auction keeps the books sound, and the auction open unless
the buyer takes the lead. -/
theorem Tried.sound {p : PostResult} (htried : Tried x item p y) (h : x.Sound)
    (hopen : ∀ id, item.auction = some id → x.Open id) :
    y.Sound ∧ (p.success = false → ∀ id, item.auction = some id → y.Open id) := by
  obtain ⟨label, hlabel, hframe⟩ := htried.recorded
  have hcount := x.countRetry_recounts item.origin
  have hopen' : ∀ id, item.auction = some id → (x.countRetry item.origin).Open id :=
    fun id hid => (hopen id hid).recounts hcount
  constructor
  · refine (h.recounts hcount).appends hframe ?_ ?_ (List.pairwise_singleton _ _)
    · exact List.forall_mem_singleton.mpr fun id hid => (hopen' id hid).issued
    · exact List.forall_mem_singleton.mpr fun id hoffers => hopen' id hoffers.1
  · intro hfailed id hid
    refine (hopen' id hid).appends hframe (List.forall_mem_singleton.mpr fun hsells => ?_)
    cases hfailed.symm.trans (hlabel.mp hsells.2)

variable [Transport ω]

theorem Sound.treat (h : x.Sound) (hopen : ∀ id, item.auction = some id → x.Open id)
    (now clock : Instant) : (x.treat item now clock).2.2.Sound := by
  have hspec := x.treat_spec item now clock
  generalize x.treat item now clock = outcome at hspec
  cases hspec with
  | unregistered => exact h.giveUp _ _
  | ineligible => exact h.giveUp _ _
  | putOff => exact h.requeue hopen
  | delivered _ htried => exact (htried.sound h hopen).1
  | refused _ htried => exact (htried.sound h hopen).1.giveUp _ _
  | exhausted _ htried => exact (htried.sound h hopen).1.giveUp _ _
  | failed _ htried hfailed =>
    obtain ⟨hsound, hstill⟩ := htried.sound h hopen
    exact hsound.requeue (hstill (by simp [hfailed]))

theorem Sound.sweepKey (h : x.Sound) (report : SweepReport) (key : RetryKey)
    (now clock : Instant) : (x.sweepKey report key now clock).2.Sound := by
  unfold Exchange.sweepKey
  split
  · exact h
  · rename_i item hitem
    obtain ⟨htaken, hopen⟩ := h.take hitem
    exact htaken.treat hopen now clock

/-! ### Auctions -/

omit [Transport ω] in
/-- The next auction is open: nothing was ever recorded about it. -/
theorem Sound.countAuction (h : x.Sound) :
    x.countAuction.Sound ∧ x.countAuction.Open (.issued x.auctions) := by
  have hlater {id : AuctionId} (hid : x.Issued id) : x.countAuction.Issued id :=
    hid.mono (Nat.le_succ _)
  refine ⟨⟨fun e he id hid => hlater (h.recorded e he id hid),
    fun i hi id hid => hlater (h.waiting i hi id hid), h.final, h.unsold, h.single⟩,
    ⟨_, Nat.lt_succ_self _, rfl⟩, fun e he hsells => ?_, fun i hi hid => ?_⟩
  · exact x.not_issued_next (h.recorded e he _ hsells.1.1)
  · exact x.not_issued_next (h.waiting i hi _ hid)

omit [Transport ω] in
/-- A cascade of an open auction keeps the books sound, and the auction open unless a bidder takes
the lead. -/
theorem Sound.cascade (h : x.Sound) (hopen : x.Open id) {leadId : String} {n : Nat}
    {ranked : List Bid} {posts : List PostResult} {sale : Option Sale}
    (hcourse : Cascade leadId id n ranked posts sale es) (hframe : x.Appends es y) :
    y.Sound ∧ (sale = none → y.Open id) := by
  constructor
  · refine h.appends hframe (fun e he id' hid => ?_) (fun e he id' hoffers => ?_) ?_
    · exact Option.some.inj ((hcourse.auction e he).symm.trans hid) ▸ hopen.issued
    · exact Option.some.inj ((hcourse.auction e he).symm.trans hoffers.1) ▸ hopen
    · exact hcourse.pairwise_not_delivered.imp fun hlabel id' hsells => (hlabel hsells.2).elim
  · rintro rfl
    exact hopen.appends hframe fun e he hsells => hcourse.not_delivered e he hsells.2

omit [Transport ω] in
/-- The entries about the PINGs keep the books sound. -/
theorem Sound.pings (h : x.Sound) (hissued : x.Issued id) {pings : List PingResult}
    {leadId : String} {winner : Option String}
    (hframe : x.Appends (pings.map (·.toEntry id leadId winner)) y) : y.Sound := by
  refine h.appends_of_not_offers hframe ?_ ?_
  · exact List.forall_mem_map.mpr fun r _ id' hid => Option.some.inj hid ▸ hissued
  · refine List.forall_mem_map.mpr fun r _ id' hoffers => ?_
    simp [Entry.Offers, PingResult.toEntry] at hoffers

omit [Transport ω] in
theorem auction_of_retryCandidate? {lead : Lead} {posts : List PostResult} {now : Instant}
    {ranked : List Bid} (h : x.retryCandidate? lead id posts now ranked = some item) :
    item.auction = some id := by
  obtain ⟨-, bid, -, -, hbid, -⟩ := List.findSome?_eq_some_iff.mp h
  simp only [retryAt?] at hbid
  split at hbid
  · cases hbid
  · obtain ⟨s, -, rfl⟩ := Option.map_eq_some_iff.mp hbid
    rfl

omit [Transport ω] in
/-- The lead of an open auction may be handed over. -/
theorem Sound.scheduleRetry (h : x.Sound) (hopen : x.Open id) (lead : Lead) (ranked : List Bid)
    (posts : List PostResult) (now : Instant) :
    (x.scheduleRetry lead id ranked posts now).2.Sound := by
  unfold Exchange.scheduleRetry
  split
  · exact h
  split
  · rename_i item hitem
    refine h.enqueue fun id' hid => ?_
    rw [auction_of_retryCandidate? hitem, Option.some.injEq] at hid
    exact hid ▸ hopen
  split
  · exact h
  · exact h.giveUp _ _

omit [Transport ω] in
theorem scheduleRetry_auctions (x : Exchange ω) (lead : Lead) (id : AuctionId) (ranked : List Bid)
    (posts : List PostResult) (now : Instant) :
    (x.scheduleRetry lead id ranked posts now).2.auctions = x.auctions := by
  unfold Exchange.scheduleRetry
  split
  · rfl
  split
  · unfold Exchange.enqueue
    split <;> rfl
  split <;> rfl

theorem Sound.runAuction (h : x.Sound) (lead : Lead) (now : Instant) :
    (x.runAuction lead now).2.Sound := by
  obtain ⟨hcount, hopen⟩ := h.countAuction
  have hspec := x.runAuction_spec lead now
  generalize x.runAuction lead now = outcome at hspec
  rcases outcome with ⟨r, y⟩
  cases hspec with
  | invalid _ hframe => exact hcount.frame hframe
  | unattended _ _ hframe => exact hcount.frame hframe
  | unsold _ _ hframe => exact hcount.pings hopen.issued hframe
  | sold _ hcourse hframe =>
    obtain ⟨w, hbefore, hafter⟩ := hframe.split
    have hsound := (hcount.cascade hopen hcourse hbefore).1
    exact hsound.pings (hopen.issued.appends hbefore) hafter
  | @exhausted pings posts es w z _ queued _ _ hcourse hbefore hretry hafter =>
    obtain ⟨hsound, hstill⟩ := hcount.cascade hopen hcourse hbefore
    have hz := hsound.scheduleRetry (hstill rfl) lead (Bid.ranking (pings.map (·.bid))) posts now
    have hauctions := w.scheduleRetry_auctions lead (.issued x.auctions)
      (Bid.ranking (pings.map (·.bid))) posts now
    simp only [hretry] at hz hauctions
    have hissued : z.Issued (.issued x.auctions) := by
      simpa only [Issued, hauctions] using (hstill rfl).issued
    exact hz.pings hissued hafter

/-! ### Runs -/

/-- Every step keeps the books sound. -/
theorem Sound.step (h : x.Sound) {event : Event ω}
    (hsimple : ∀ now clock, event ≠ .sweep now clock) : (x.step event).Sound := by
  cases event with
  | auction lead now => exact h.runAuction lead now
  | request lead now =>
    simp only [Exchange.step, requestAuction]
    split
    · exact h
    · exact h.runAuction lead now
  | sweep now clock => exact (hsimple now clock rfl).elim
  | sweepItem key now clock => exact h.sweepKey .empty key now clock
  | upsert buyerId buyer => exact h.frame (x.upsertBuyer_appends buyerId buyer)
  | webhook buyerId signature timestamp body now =>
    obtain ⟨es, hes, hframe⟩ := x.receiveWebhook_appends buyerId signature timestamp body now
    refine h.appends_of_not_offers hframe (fun e he id hid => ?_) (fun e he id hoffers => ?_)
    · cases (hes e he).1.symm.trans hid
    · cases (hes e he).1.symm.trans hoffers.1
  | preview buyerId kind lead now => exact h.frame (x.preview_appends buyerId kind lead now)
  | others act => exact h.frame ⟨by simp [Exchange.step], rfl, rfl, rfl⟩

theorem Sound.run (h : x.Sound) (events : List (Event ω)) : (x.run events).Sound :=
  run_induction (fun _ _ hsimple hx => hx.step hsimple) h events

omit [Transport ω] in
theorem sound_fresh (settings : ExchangeSettings) (registry : Registry)
    (secrets : Table String String) (world : ω) :
    (Exchange.fresh settings registry secrets world).Sound := by
  constructor <;> simp [Exchange.fresh]

/-- **No lead is sold twice**: in every run from an exchange in which nothing has happened, of each
auction the ledger tells of at most one sale, of no offer after it, and at any time the backlog
holds at most one item. -/
theorem run_noDoubleSale (settings : ExchangeSettings) (registry : Registry)
    (secrets : Table String String) (world : ω) (events : List (Event ω)) (id : AuctionId) :
    (((Exchange.fresh settings registry secrets world).run events).ledger.countP
        fun e => e.Sells id) ≤ 1 ∧
      (((Exchange.fresh settings registry secrets world).run events).ledger.Pairwise
        fun e f => e.Sells id → ¬f.Offers id) ∧
      (((Exchange.fresh settings registry secrets world).run events).backlog.countP
        fun i => i.2.auction = some id) ≤ 1 := by
  have h := (sound_fresh settings registry secrets world).run events
  generalize (Exchange.fresh settings registry secrets world).run events = x at h
  refine ⟨countP_le_one ?_, h.final.imp fun hef => hef id, countP_le_one ?_⟩
  · refine h.final.imp fun hef he hf => ?_
    exact hef id (of_decide_eq_true he) (of_decide_eq_true hf).1
  · refine h.single.imp fun hij hi hj => ?_
    exact hij id (of_decide_eq_true hi) (of_decide_eq_true hj)

end Exchange

end PingPost
