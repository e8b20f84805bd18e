import Mathlib.Data.List.Induction
import PingPost.Proofs.BookMoves

/-!
No lead is retried more often than its policy admits.

The retries that the ledger tells of are tied to the items by `Exchange.Budgeted`: every item, in
the backlog or given up, has as many attempts as the ledger tells of retries after its auction, and
an auction with a dead letter has no item that waits. An item that is taken out of the backlog is
`Exchange.InHand`: it is the only one of its auction, so it may be worked on and put somewhere.

Two moments of a run are compared by what the earlier one fixes: an auction with an item may not go
beyond the item's policy (`Exchange.Within`), and one without an item that waits is not retried any
more (`Exchange.Closed`).
-/

namespace PingPost

open Exchange

variable {ω : Type}

/-! ### Counting retries -/

/-- How many retries after an auction the ledger tells of. -/
def Ledger.retries (l : Ledger) (id : AuctionId) : Nat := l.countP fun e => e.Retries id

namespace Ledger

variable {l l' : Ledger} {id : AuctionId}

theorem retries_append : retries (l ++ l') id = retries l id + retries l' id := List.countP_append

theorem retries_eq_zero (h : ∀ e ∈ l, ¬e.Retries id) : retries l id = 0 :=
  List.countP_eq_zero.mpr fun e he => by simpa using h e he

theorem retries_append_of_not_retries (h : ∀ e ∈ l', ¬e.Retries id) :
    retries (l ++ l') id = retries l id := by
  rw [retries_append, retries_eq_zero h, Nat.add_zero]

/-- The numbers of retries in the entries do not matter. -/
theorem retries_congr (h : l.map Entry.uncounted = l'.map Entry.uncounted) :
    retries l id = retries l' id :=
  countP_congr_uncounted (fun _ => rfl) h

end Ledger

/-- A dead letter has not more attempts than its policy admits, and all of them if it was given up
for being exhausted. -/
structure DeadLetter.WithinBudget (d : DeadLetter) : Prop where
  le : d.item.attempts ≤ d.item.policy.maxAttempts
  exhausted : d.reason.message = GivenUp.exhausted.message →
    d.item.attempts = d.item.policy.maxAttempts

namespace Exchange

variable {x y v : Exchange ω} {item left : RetryItem} {id : AuctionId} {now : Instant}
  {attempted : Bool} {fate : SweepEnd} {key : RetryKey} {es : Ledger}

/-! ### Items and the ledger -/

/-- An item of an auction that was run, with as many attempts as the ledger tells of retries. -/
def Tallied (x : Exchange ω) (item : RetryItem) : Prop :=
  ∃ id, item.auction = some id ∧ x.Issued id ∧ x.ledger.retries id = item.attempts

/-- The items and the ledger agree on the retries. -/
structure Budgeted (x : Exchange ω) : Prop where
  kept : x.backlog.WellKept
  waiting : ∀ i ∈ x.backlog, x.Tallied i.2
  givenUp : ∀ d ∈ x.deadLetters, x.Tallied d.item ∧ d.WithinBudget
  apart : ∀ d ∈ x.deadLetters, ∀ i ∈ x.backlog, i.2.auction ≠ d.item.auction

/-- An item that is nowhere, and of whose auction there is no other. -/
structure InHand (x : Exchange ω) (item : RetryItem) (id : AuctionId) : Prop where
  auction : item.auction = some id
  issued : x.Issued id
  retries : x.ledger.retries id = item.attempts
  notWaiting : ∀ i ∈ x.backlog, i.2.auction ≠ some id
  notGivenUp : ∀ d ∈ x.deadLetters, d.item.auction ≠ some id

theorem InHand.tallied (h : x.InHand item id) : x.Tallied item :=
  ⟨id, h.auction, h.issued, h.retries⟩

/-- The books may change as long as the items and the numbers of retries are the same. -/
theorem Budgeted.frame (h : x.Budgeted) (hretries : ∀ id, y.ledger.retries id = x.ledger.retries id)
    (hauctions : x.auctions ≤ y.auctions) (hbacklog : y.backlog = x.backlog)
    (hletters : y.deadLetters = x.deadLetters) : y.Budgeted := by
  have htallied {item : RetryItem} (hitem : x.Tallied item) : y.Tallied item := by
    obtain ⟨id, hid, hissued, hcount⟩ := hitem
    exact ⟨id, hid, hissued.mono hauctions, (hretries id).trans hcount⟩
  constructor
  · exact hbacklog ▸ h.kept
  · exact hbacklog ▸ fun i hi => htallied (h.waiting i hi)
  · exact hletters ▸ fun d hd => ⟨htallied (h.givenUp d hd).1, (h.givenUp d hd).2⟩
  · exact hletters ▸ hbacklog ▸ h.apart

theorem Budgeted.put (h : x.Budgeted) (hhand : x.InHand item id)
    (hbudget : item.attempts < item.policy.maxAttempts) :
    Budgeted { x with backlog := x.backlog.put item.key item } where
  kept := h.kept.put hbudget
  waiting i hi := by
    rcases Table.mem_put hi with rfl | hi
    · exact hhand.tallied
    · exact h.waiting i hi
  givenUp := h.givenUp
  apart d hd i hi := by
    rcases Table.mem_put hi with rfl | hi
    · exact fun heq => hhand.notGivenUp d hd (heq ▸ hhand.auction)
    · exact h.apart d hd i hi

theorem Budgeted.requeue (h : x.Budgeted) (hhand : x.InHand item id)
    (hbudget : item.attempts < item.policy.maxAttempts) : (x.requeue item).Budgeted := by
  unfold Exchange.requeue Table.putNew
  split
  · exact h
  · exact h.put hhand hbudget

theorem Budgeted.giveUp (h : x.Budgeted) (hhand : x.InHand item id) {reason : GivenUp}
    (hwithin : DeadLetter.WithinBudget ⟨item, reason⟩) : (x.giveUp item reason).Budgeted where
  kept := h.kept
  waiting := h.waiting
  givenUp := List.forall_mem_append.mpr
    ⟨h.givenUp, List.forall_mem_singleton.mpr ⟨hhand.tallied, hwithin⟩⟩
  apart := by
    refine List.forall_mem_append.mpr ⟨h.apart, List.forall_mem_singleton.mpr fun i hi => ?_⟩
    rw [hhand.auction]
    exact hhand.notWaiting i hi

/-! ### Sweeps -/

/-- An item that is taken out of the backlog is in hand. -/
theorem Budgeted.take (h : x.Budgeted) (hsound : x.Sound) (hitem : x.backlog.get? key = some item) :
    (x.without key).Budgeted ∧ ∃ id, (x.without key).InHand item id := by
  have hmem := Table.mem_of_get? hitem
  have hsub := (Table.erase_sublist key x.backlog).subset
  obtain ⟨id, hid, hissued, hretries⟩ := h.waiting _ hmem
  refine ⟨⟨h.kept.erase key, fun i hi => h.waiting i (hsub hi), h.givenUp,
    fun d hd i hi => h.apart d hd i (hsub hi)⟩, id, hid, hissued, hretries, ?_, fun d hd hd' => ?_⟩
  · exact ((hsound.take hitem).2 id hid).idle
  · exact h.apart d hd _ hmem (hid.trans hd'.symm)

/-- An attempt is one retry more after the item's auction, and after no other. -/
theorem Worked.retries (h : Worked x item attempted fate y) (id : AuctionId) :
    y.ledger.retries id =
      x.ledger.retries id + if item.auction = some id then attempted.toNat else 0 := by
  cases h with
  | spared => simp
  | tried htried =>
    obtain ⟨label, -, hframe⟩ := htried.recorded
    rw [hframe.ledger, Ledger.retries_append,
      Ledger.retries_congr (x.countRetry_recounts item.origin).ledger]
    simp [Ledger.retries, List.countP_singleton, Entry.Retries, PostResult.toEntry,
      DeliveryContext.ofRetry]

/-- An item in hand may be worked on, and is still in hand then. -/
theorem Worked.budgeted (h : Worked x item attempted fate y) (hx : x.Budgeted)
    (hhand : x.InHand item id) (hleft : item.Renewed left attempted.toNat) :
    y.Budgeted ∧ y.InHand left id := by
  have hissued {i : AuctionId} (hi : x.Issued i) : y.Issued i := by
    simpa only [Issued, h.auctions] using hi
  -- The other items are of other auctions, so their retries are as many as before.
  have hother {i : RetryItem} (hi : i.auction ≠ some id) (htallied : x.Tallied i) :
      y.Tallied i := by
    obtain ⟨other, hauction, hrun, hretries⟩ := htallied
    have hne : item.auction ≠ some other := by
      rw [hhand.auction, ← hauction]
      exact hi.symm
    exact ⟨other, hauction, hissued hrun, by rw [h.retries, if_neg hne, hretries]; rfl⟩
  constructor
  · constructor
    · exact h.backlog ▸ hx.kept
    · rw [h.backlog]
      exact fun i hi => hother (hhand.notWaiting i hi) (hx.waiting i hi)
    · rw [h.deadLetters]
      exact fun d hd => ⟨hother (hhand.notGivenUp d hd) (hx.givenUp d hd).1, (hx.givenUp d hd).2⟩
    · rw [h.deadLetters, h.backlog]
      exact hx.apart
  · constructor
    · exact hleft.auction.trans hhand.auction
    · exact hissued hhand.issued
    · rw [h.retries, if_pos hhand.auction, hhand.retries, hleft.attempts]
    · exact h.backlog ▸ hhand.notWaiting
    · exact h.deadLetters ▸ hhand.notGivenUp

theorem Settled.budgeted (h : Settled x left now fate y) (hx : x.Budgeted)
    (hhand : x.InHand left id) : y.Budgeted := by
  cases h with
  | delivered => exact hx
  | rescheduled _ hbudget => exact hx.requeue hhand hbudget
  | deadLettered hle hexhausted => exact hx.giveUp hhand ⟨hle, hexhausted⟩

theorem Treated.budgeted (h : Treated (x.without key) item now (attempted, fate, y))
    (hx : x.Budgeted) (hsound : x.Sound) (hitem : x.backlog.get? key = some item) :
    y.Budgeted := by
  obtain ⟨left, v, hleft, hworked, hsettled⟩ := h.settled (hx.kept.lt_maxAttempts hitem)
  obtain ⟨htaken, id, hhand⟩ := hx.take hsound hitem
  obtain ⟨hv, hvhand⟩ := hworked.budgeted htaken hhand hleft
  exact hsettled.budgeted hv hvhand

/-! ### Auctions -/

theorem Ran.retries (h : Ran x es y) (id : AuctionId) :
    y.ledger.retries id = x.ledger.retries id := by
  rw [h.ledger]
  exact Ledger.retries_append_of_not_retries fun e he hretries => (h.entries e he).2.1 hretries.2

/-- What an auction makes of its lead is in hand when the entries have been added. -/
theorem Ran.budgeted (h : Ran x es y) (hx : x.Budgeted) (hsound : x.Sound) : y.Budgeted := by
  -- The lead is put somewhere when the entries have been added.
  let w : Exchange ω := { x with ledger := y.ledger, auctions := y.auctions }
  have hw : w.Budgeted := hx.frame h.retries (h.auctions ▸ Nat.le_succ _) rfl rfl
  have hhand {item : RetryItem} (hmade : item.MadeIn (.issued x.auctions) x.ledger.length es) :
      w.InHand item (.issued x.auctions) := by
    refine ⟨hmade.auction, ⟨_, h.auctions ▸ Nat.lt_succ_self _, rfl⟩, ?_, fun i hi hid => ?_,
      fun d hd hid => ?_⟩
    · rw [hmade.attempts]
      refine (h.retries _).trans (Ledger.retries_eq_zero fun e he hretries => ?_)
      exact x.not_issued_next (hsound.recorded e he _ hretries.1)
    · exact x.not_issued_next (hsound.waiting i hi _ hid)
    · obtain ⟨id, hid', hrun, -⟩ := (hx.givenUp d hd).1
      cases hid.symm.trans hid'
      exact x.not_issued_next hrun
  cases h.handed with
  | dropped hbacklog hletters => exact hw.frame (fun _ => rfl) (Nat.le_refl _) hbacklog hletters
  | queued hmade hattempts hbacklog hletters =>
    have hput := hw.put (hhand hmade) (hmade.attempts ▸ hattempts)
    exact hput.frame (fun _ => rfl) (Nat.le_refl _) hbacklog hletters
  | @givenUp item reason hmade hreason hbacklog hletters =>
    have hwithin : DeadLetter.WithinBudget ⟨item, reason⟩ :=
      ⟨hmade.attempts ▸ Nat.zero_le _, fun heq => (hreason heq).elim⟩
    exact (hw.giveUp (hhand hmade) hwithin).frame (fun _ => rfl) (Nat.le_refl _) hbacklog hletters

/-! ### Moves -/

/-- What the treatment of an item does to the numbers of retries and to the backlog. -/
theorem Treated.effect (h : Treated (x.without key) item now (attempted, fate, y))
    (hkept : x.backlog.WellKept) (hitem : x.backlog.get? key = some item) :
    y.auctions = x.auctions ∧
      (∀ id, y.ledger.retries id =
        x.ledger.retries id + if item.auction = some id then attempted.toNat else 0) ∧
      ∀ i ∈ y.backlog, ∃ j ∈ x.backlog, j.2.auction = i.2.auction ∧ j.2.policy = i.2.policy := by
  obtain ⟨left, v, hleft, hworked, hsettled⟩ := h.settled (hkept.lt_maxAttempts hitem)
  refine ⟨hsettled.auctions.trans hworked.auctions, fun id => ?_, fun i hi => ?_⟩
  · rw [hsettled.ledger, hworked.retries]
    rfl
  · rcases hsettled.waiting i hi with hi | hi
    · exact ⟨_, Table.mem_of_get? hitem, by rw [hi, hleft.auction], by rw [hi, hleft.policy]⟩
    · rw [hworked.backlog] at hi
      exact ⟨i, (Table.mem_erase.mp hi).1, rfl, rfl⟩

namespace Moves

theorem budgeted (h : Moves x y) (hx : x.Budgeted) (hsound : x.Sound) : y.Budgeted := by
  cases h with
  | noted hes hframe =>
    refine hx.frame (fun id => ?_) (Nat.le_of_eq hframe.auctions.symm) hframe.backlog
      hframe.deadLetters
    rw [hframe.ledger]
    refine Ledger.retries_append_of_not_retries fun e he hretries => ?_
    cases hretries.1.symm.trans (hes e he).1
  | ran hran => exact hran.budgeted hx hsound
  | treated hitem htreated => exact htreated.budgeted hx hsound hitem

theorem issued (h : Moves x y) (hkept : x.backlog.WellKept) (hid : x.Issued id) : y.Issued id := by
  cases h with
  | noted _ hframe => exact hid.appends hframe
  | ran hran => exact hid.mono (hran.auctions ▸ Nat.le_succ _)
  | treated hitem htreated => exact hid.mono (Nat.le_of_eq (htreated.effect hkept hitem).1.symm)

/-- A retry is made of a waiting item only. -/
theorem retries (h : Moves x y) (hkept : x.backlog.WellKept) (id : AuctionId) :
    y.ledger.retries id = x.ledger.retries id ∨
      ∃ i ∈ x.backlog, i.2.auction = some id ∧
        y.ledger.retries id = x.ledger.retries id + 1 := by
  cases h with
  | noted hes hframe =>
    left
    rw [hframe.ledger]
    refine Ledger.retries_append_of_not_retries fun e he hretries => ?_
    cases hretries.1.symm.trans (hes e he).1
  | ran hran => exact .inl (hran.retries id)
  | @treated key item now attempted fate y hitem htreated =>
    rw [(htreated.effect hkept hitem).2.1]
    by_cases hid : item.auction = some id
    · rw [if_pos hid]
      cases attempted with
      | false => exact .inl rfl
      | true => exact .inr ⟨_, Table.mem_of_get? hitem, hid, rfl⟩
    · rw [if_neg hid]
      exact .inl rfl

/-- What waits after a move, waited before it under the same policy, or is made of the lead of a new
auction. -/
theorem waiting (h : Moves x y) (hkept : x.backlog.WellKept) :
    ∀ i ∈ y.backlog, (∃ j ∈ x.backlog, j.2.auction = i.2.auction ∧ j.2.policy = i.2.policy) ∨
      i.2.auction = some (.issued x.auctions) := by
  intro i hi
  cases h with
  | noted _ hframe => exact .inl ⟨i, hframe.backlog ▸ hi, rfl, rfl⟩
  | treated hitem htreated => exact .inl ((htreated.effect hkept hitem).2.2 i hi)
  | ran hran =>
    cases hran.handed with
    | dropped hbacklog => exact .inl ⟨i, hbacklog ▸ hi, rfl, rfl⟩
    | givenUp _ _ hbacklog => exact .inl ⟨i, hbacklog ▸ hi, rfl, rfl⟩
    | queued hmade _ hbacklog =>
      rw [hbacklog] at hi
      rcases Table.mem_put hi with rfl | hi
      · exact .inr hmade.auction
      · exact .inl ⟨i, hi, rfl, rfl⟩

end Moves

/-! ### Two moments of a run -/

/-- The items that wait or were given up. -/
def held (x : Exchange ω) : List RetryItem := x.backlog.map (·.2) ++ x.deadLetters.map (·.item)

/-- An auction that is not retried more often than a policy admits, under which its item waits. -/
structure Within (x : Exchange ω) (id : AuctionId) (policy : RetryPolicy) : Prop where
  issued : x.Issued id
  le : x.ledger.retries id ≤ policy.maxAttempts
  policy : ∀ i ∈ x.backlog, i.2.auction = some id → i.2.policy = policy

/-- An auction that was retried some number of times and of which no item waits. -/
structure Closed (x : Exchange ω) (id : AuctionId) (n : Nat) : Prop where
  issued : x.Issued id
  retries : x.ledger.retries id = n
  idle : ∀ i ∈ x.backlog, i.2.auction ≠ some id

variable {policy : RetryPolicy} {n : Nat}

theorem Budgeted.within (hx : x.Budgeted) (hsound : x.Sound) (hitem : item ∈ x.held)
    (hid : item.auction = some id) : x.Within id item.policy := by
  rcases List.mem_append.mp hitem with hitem | hitem
  · obtain ⟨i, hi, rfl⟩ := List.mem_map.mp hitem
    obtain ⟨other, hother, hissued, hretries⟩ := hx.waiting i hi
    cases hid.symm.trans hother
    refine ⟨hissued, hretries ▸ Nat.le_of_lt (hx.kept.budget i hi), fun j hj hid' => ?_⟩
    rw [hsound.eq_of_auction hj hi hid' hid]
  · obtain ⟨d, hd, rfl⟩ := List.mem_map.mp hitem
    obtain ⟨⟨other, hother, hissued, hretries⟩, hwithin⟩ := hx.givenUp d hd
    cases hid.symm.trans hother
    refine ⟨hissued, hretries ▸ hwithin.le, fun j hj hid' => ?_⟩
    exact (hx.apart d hd j hj (hid'.trans hid.symm)).elim

theorem Budgeted.closed_of_givenUp (hx : x.Budgeted) {d : DeadLetter} (hd : d ∈ x.deadLetters)
    (hid : d.item.auction = some id) : x.Closed id (x.ledger.retries id) := by
  obtain ⟨other, hother, hissued, -⟩ := (hx.givenUp d hd).1
  cases hid.symm.trans hother
  exact ⟨hissued, rfl, fun i hi => hid ▸ hx.apart d hd i hi⟩

theorem Sound.closed_of_sold (h : x.Sound) {e : Entry} (he : e ∈ x.ledger) (hsells : e.Sells id) :
    x.Closed id (x.ledger.retries id) :=
  ⟨h.recorded e he id hsells.1.1, rfl, h.unsold e he id hsells⟩

theorem Moves.within (h : Moves x y) (hx : x.Budgeted) (hwithin : x.Within id policy) :
    y.Within id policy where
  issued := h.issued hx.kept hwithin.issued
  le := by
    rcases h.retries hx.kept id with hsame | ⟨i, hi, hid, hmore⟩
    · exact hsame ▸ hwithin.le
    · obtain ⟨other, hother, -, hretries⟩ := hx.waiting i hi
      cases hid.symm.trans hother
      rw [hmore, hretries, ← hwithin.policy i hi hid]
      exact hx.kept.budget i hi
  policy i hi hid := by
    rcases h.waiting hx.kept i hi with ⟨j, hj, hauction, hpolicy⟩ | hnext
    · exact hpolicy ▸ hwithin.policy j hj (hauction.trans hid)
    · cases hid.symm.trans hnext
      exact (x.not_issued_next hwithin.issued).elim

theorem Moves.closed (h : Moves x y) (hx : x.Budgeted) (hclosed : x.Closed id n) :
    y.Closed id n where
  issued := h.issued hx.kept hclosed.issued
  retries := by
    rcases h.retries hx.kept id with hsame | ⟨i, hi, hid, -⟩
    · exact hsame.trans hclosed.retries
    · exact (hclosed.idle i hi hid).elim
  idle i hi hid := by
    rcases h.waiting hx.kept i hi with ⟨j, hj, hauction, -⟩ | hnext
    · exact hclosed.idle j hj (hauction.trans hid)
    · cases hid.symm.trans hnext
      exact x.not_issued_next hclosed.issued

/-! ### Runs -/

theorem budgeted_fresh (settings : ExchangeSettings) (registry : Registry)
    (secrets : Table String String) (world : ω) :
    (Exchange.fresh settings registry secrets world).Budgeted := by
  constructor
  · exact .nil
  all_goals simp [Exchange.fresh]

variable [Transport ω]

/-- What every move keeps while the books agree, holds after every run. -/
theorem run_of_moves {P : Exchange ω → Prop}
    (hmoves : ∀ {x y}, Moves x y → x.Sound → x.Budgeted → P x → P y) (hsound : x.Sound)
    (hx : x.Budgeted) (hp : P x) (events : List (Event ω)) : P (x.run events) := by
  suffices h : (x.run events).Sound ∧ (x.run events).Budgeted ∧ P (x.run events) from h.2.2
  refine run_induction (P := fun y => y.Sound ∧ y.Budgeted ∧ P y) ?_ ⟨hsound, hx, hp⟩ events
  rintro y event hsimple ⟨hsound, hy, hp⟩
  have hmove := y.step_moves hsimple
  exact ⟨hsound.step hsimple, hmove.budgeted hy hsound, hmoves hmove hsound hy hp⟩

theorem Budgeted.run (hx : x.Budgeted) (hsound : x.Sound) (events : List (Event ω)) :
    (x.run events).Budgeted :=
  run_of_moves (fun hmove hsound hy _ => hmove.budgeted hy hsound) hsound hx hx events

/-- An auction without an item that waits is not retried in the next step. -/
theorem retries_step_of_idle (hsound : x.Sound) (hx : x.Budgeted)
    (hidle : ∀ i ∈ x.backlog, i.2.auction ≠ some id) (event : Event ω) :
    (x.step event).ledger.retries id = x.ledger.retries id := by
  by_cases hsweep : ∃ now clock, event = .sweep now clock
  · obtain ⟨now, clock, rfl⟩ := hsweep
    -- In a sweep nothing is added to the backlog that is of another auction.
    suffices h : (x.sweep now clock).2.Sound ∧ (x.sweep now clock).2.Budgeted ∧
        (x.sweep now clock).2.ledger.retries id = x.ledger.retries id ∧
        ∀ i ∈ (x.sweep now clock).2.backlog, i.2.auction ≠ some id from h.2.2.1
    refine sweep_induction (P := fun y => y.Sound ∧ y.Budgeted ∧
      y.ledger.retries id = x.ledger.retries id ∧ ∀ i ∈ y.backlog, i.2.auction ≠ some id) ?_ ?_
      ⟨hsound, hx, rfl, hidle⟩ now clock
    · rintro y act ⟨hsound, hy, hretries, hidle⟩
      exact ⟨hsound.step (by simp), hy.frame (fun _ => rfl) (Nat.le_refl _) rfl rfl, hretries,
        hidle⟩
    · rintro y key now clock ⟨hsound, hy, hretries, hidle⟩
      rcases y.sweepItem_treated key now clock with hsame | ⟨item, _, _, hitem, htreated⟩
      · rw [hsame]
        exact ⟨hsound, hy, hretries, hidle⟩
      · obtain ⟨-, hcount, hwaiting⟩ := htreated.effect hy.kept hitem
        refine ⟨hsound.step (by simp), htreated.budgeted hy hsound hitem, ?_, fun i hi => ?_⟩
        · rw [hcount, if_neg (hidle _ (Table.mem_of_get? hitem)), hretries, Nat.add_zero]
        · obtain ⟨j, hj, hauction, -⟩ := hwaiting i hi
          exact hauction ▸ hidle j hj
  · rcases (x.step_moves (by simpa using hsweep)).retries hx.kept id with hsame | ⟨i, hi, hid, -⟩
    · exact hsame
    · exact (hidle i hi hid).elim

/-- What holds of the retries at two moments of a run, the first of them not after the second. -/
structure RetryBudget (x y : Exchange ω) : Prop where
  kept : y.backlog.WellKept
  /-- An auction is retried at most as often as the policy of its item admits. -/
  within : ∀ item ∈ x.held, ∀ id, item.auction = some id →
    y.ledger.retries id ≤ item.policy.maxAttempts
  exhausted : ∀ d ∈ y.deadLetters, d.reason.message = "retry attempts exhausted" →
    d.item.attempts = d.item.policy.maxAttempts
  /-- A lead that was given up is not retried any more. -/
  givenUp : ∀ d ∈ x.deadLetters, ∀ id, d.item.auction = some id →
    y.ledger.retries id = x.ledger.retries id
  /-- A lead that was sold is not retried any more. -/
  sold : ∀ e ∈ x.ledger, ∀ id, e.Sells id → y.ledger.retries id = x.ledger.retries id

/-- An auction of which there never was an item is not retried. -/
theorem run_retries_eq_zero_or_held (settings : ExchangeSettings) (registry : Registry)
    (secrets : Table String String) (world : ω) (events : List (Event ω)) (id : AuctionId) :
    ((Exchange.fresh settings registry secrets world).run events).ledger.retries id = 0 ∨
      ∃ front back, events = front ++ back ∧
        ∃ item ∈ ((Exchange.fresh settings registry secrets world).run front).held,
          item.auction = some id := by
  induction events using List.reverseRecOn with
  | nil => exact .inl rfl
  | append_singleton events event ih =>
    rcases ih with hzero | ⟨front, back, rfl, hheld⟩
    · have hsound := (sound_fresh settings registry secrets world).run events
      have hx := (budgeted_fresh settings registry secrets world).run
        (sound_fresh settings registry secrets world) events
      rw [run_append]
      by_cases hheld : ∃ i ∈ ((Exchange.fresh settings registry secrets world).run events).backlog,
          i.2.auction = some id
      · obtain ⟨i, hi, hid⟩ := hheld
        exact .inr ⟨events, [event], rfl, i.2,
          List.mem_append_left _ (List.mem_map_of_mem hi), hid⟩
      · have hidle := retries_step_of_idle hsound hx (fun i hi hid => hheld ⟨i, hi, hid⟩) event
        exact .inl (hidle.trans hzero)
    · exact .inr ⟨front, back ++ [event], List.append_assoc .., hheld⟩

/-- **No lead is retried more often than its policy admits**: in every run from an exchange in which
nothing has happened, the items that wait have attempts left under their own keys, an auction is
retried at most as often as the policy of its item admits and not at all without an item, a lead is
given up for being exhausted with all its attempts made, and what was given up or sold is not
retried any more. -/
theorem run_retryBudget (settings : ExchangeSettings) (registry : Registry)
    (secrets : Table String String) (world : ω) (before after : List (Event ω)) :
    RetryBudget ((Exchange.fresh settings registry secrets world).run before)
        ((Exchange.fresh settings registry secrets world).run (before ++ after)) ∧
      ∀ id, ((Exchange.fresh settings registry secrets world).run before).ledger.retries id = 0 ∨
        ∃ front back, before = front ++ back ∧
          ∃ item ∈ ((Exchange.fresh settings registry secrets world).run front).held,
            item.auction = some id := by
  refine ⟨?_, run_retries_eq_zero_or_held settings registry secrets world before⟩
  have hsound := (sound_fresh settings registry secrets world).run before
  have hx := (budgeted_fresh settings registry secrets world).run
    (sound_fresh settings registry secrets world) before
  rw [run_append]
  generalize (Exchange.fresh settings registry secrets world).run before = x at hsound hx
  have hclosed {id : AuctionId} {n : Nat} (h : x.Closed id n) : (x.run after).Closed id n :=
    run_of_moves (fun hmove _ hy => hmove.closed hy) hsound hx h after
  have hbudgeted := hx.run hsound after
  exact {
    kept := hbudgeted.kept
    within := fun item hitem id hid =>
      (run_of_moves (fun hmove _ hy => hmove.within hy) hsound hx
        (hx.within hsound hitem hid) after).le
    exhausted := fun d hd => (hbudgeted.givenUp d hd).2.exhausted
    givenUp := fun d hd id hid => (hclosed (hx.closed_of_givenUp hd hid)).retries
    sold := fun e he id hsells => (hclosed (hsound.closed_of_sold he hsells)).retries }

end Exchange

end PingPost
