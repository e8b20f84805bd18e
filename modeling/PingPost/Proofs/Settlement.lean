import PingPost.Proofs.Sweep

/-!
How it is settled what becomes of an item.

An item that is taken out of the backlog is worked on, with or without an attempt (`Worked`), and
then it is decided what becomes of it (`Settled`): it is delivered, or put back into the backlog for
later, or given up. `Exchange.Treated.settled` says that this is so for every item with attempts
left; all that is said of sweeps later splits on these three ends, and not on the seven ways in
which an item may be treated.

A backlog in which every item has attempts left under its own key is `Backlog.WellKept`.
-/

namespace PingPost

variable {ω : Type}

/-! ### Backlogs -/

/-- A table in order, in which every item is stored under its own key and has attempts left. -/
structure Backlog.WellKept (b : Backlog) : Prop where
  ordered : Table.Ordered b
  keyed : ∀ e ∈ b, e.2.key = e.1
  budget : ∀ e ∈ b, e.2.attempts < e.2.policy.maxAttempts

/-- The items that are due. -/
def Backlog.due (b : Backlog) (now : Instant) : List RetryItem :=
  (b.filter fun e => e.2.isDue now).map (·.2)

namespace Backlog.WellKept

variable {b : Backlog} {key : RetryKey} {item : RetryItem} {now : Instant}

theorem nil : Backlog.WellKept [] where
  ordered := .nil
  keyed := by simp
  budget := by simp

theorem erase (h : b.WellKept) (key : RetryKey) : Backlog.WellKept (Table.erase key b) where
  ordered := h.ordered.erase key
  keyed e he := h.keyed e (Table.mem_erase.mp he).1
  budget e he := h.budget e (Table.mem_erase.mp he).1

theorem put (h : b.WellKept) (hbudget : item.attempts < item.policy.maxAttempts) :
    Backlog.WellKept (Table.put item.key item b) where
  ordered := h.ordered.put _ _
  keyed e he := by
    rcases Table.mem_put he with rfl | he
    · rfl
    · exact h.keyed e he
  budget e he := by
    rcases Table.mem_put he with rfl | he
    · exact hbudget
    · exact h.budget e he

theorem putNew (h : b.WellKept) (hbudget : item.attempts < item.policy.maxAttempts) :
    Backlog.WellKept (Table.putNew item.key item b) := by
  unfold Table.putNew
  split
  · exact h
  · exact h.put hbudget

theorem key_eq (h : b.WellKept) (hitem : b.get? key = some item) : item.key = key :=
  h.keyed _ (Table.mem_of_get? hitem)

theorem lt_maxAttempts (h : b.WellKept) (hitem : b.get? key = some item) :
    item.attempts < item.policy.maxAttempts :=
  h.budget _ (Table.mem_of_get? hitem)

theorem dueKeys_eq (h : b.WellKept) : b.dueKeys now = (b.due now).map (·.key) := by
  rw [dueKeys, due, List.map_map]
  refine List.map_congr_left fun e he => ?_
  exact (h.keyed e (List.mem_filter.mp he).1).symm

theorem dueKeys_nodup (h : b.WellKept) : (b.dueKeys now).Nodup :=
  h.ordered.keys_nodup.sublist (List.filter_sublist.map _)

theorem get?_of_mem_due (h : b.WellKept) (hitem : item ∈ b.due now) :
    b.get? item.key = some item := by
  obtain ⟨e, he, rfl⟩ := List.mem_map.mp hitem
  have hmem := (List.mem_filter.mp he).1
  rw [h.keyed e hmem]
  exact (Table.get?_eq_some_iff h.ordered).mpr hmem

theorem mem_dueKeys (h : b.WellKept) :
    key ∈ b.dueKeys now ↔ ∃ item, b.get? key = some item ∧ item.isDue now = true := by
  rw [h.dueKeys_eq]
  constructor
  · intro hkey
    obtain ⟨item, hitem, rfl⟩ := List.mem_map.mp hkey
    refine ⟨item, h.get?_of_mem_due hitem, ?_⟩
    obtain ⟨e, he, rfl⟩ := List.mem_map.mp hitem
    exact (List.mem_filter.mp he).2
  · rintro ⟨item, hitem, hdue⟩
    refine List.mem_map.mpr ⟨item, List.mem_map.mpr ⟨(key, item), ?_, rfl⟩, h.key_eq hitem⟩
    exact List.mem_filter.mpr ⟨Table.mem_of_get? hitem, hdue⟩

end Backlog.WellKept

/-! ### What becomes of an item -/

/-- The second item is the first one with some attempts more; only the time of the next attempt and
the last error may differ otherwise. -/
structure RetryItem.Renewed (item left : RetryItem) (n : Nat) : Prop where
  lead : left.lead = item.lead
  buyerId : left.buyerId = item.buyerId
  auction : left.auction = item.auction
  bidAmount : left.bidAmount = item.bidAmount
  origin : left.origin = item.origin
  policy : left.policy = item.policy
  enqueuedAt : left.enqueuedAt = item.enqueuedAt
  attempts : left.attempts = item.attempts + n

theorem RetryItem.renewed (item : RetryItem) (n : Nat) (t : Instant) (error : Option String) :
    item.Renewed
      { item with attempts := item.attempts + n, nextAttemptAt := t, lastError := error } n :=
  ⟨rfl, rfl, rfl, rfl, rfl, rfl, rfl, rfl⟩

theorem RetryItem.Renewed.key_eq {item left : RetryItem} {n : Nat} (h : item.Renewed left n) :
    left.key = item.key := by
  rw [key, h.lead, h.buyerId]
  rfl

namespace Exchange

variable {x y v : Exchange ω} {item left : RetryItem} {now : Instant} {attempted : Bool}
  {fate : SweepEnd}

/-- An item was worked on, by an attempt or not. Only an attempt delivers. -/
inductive Worked (x : Exchange ω) (item : RetryItem) : Bool → SweepEnd → Exchange ω → Prop where
  | spared {fate : SweepEnd} : fate ≠ .delivered → Worked x item false fate x
  | tried {fate : SweepEnd} {p : PostResult} {y : Exchange ω} :
      Tried x item p y → (fate = .delivered ↔ p.success = true) → Worked x item true fate y

/-- It was decided what becomes of an item. -/
inductive Settled (x : Exchange ω) (left : RetryItem) (now : Instant) :
    SweepEnd → Exchange ω → Prop where
  | delivered : Settled x left now .delivered x
  | rescheduled :
      left.nextAttemptAt = now.addMillis (left.policy.pauseMs (left.attempts + 1)) →
      left.attempts < left.policy.maxAttempts →
      Settled x left now .rescheduled (x.requeue left)
  | deadLettered {reason : GivenUp} :
      left.attempts ≤ left.policy.maxAttempts →
      (reason.message = GivenUp.exhausted.message → left.attempts = left.policy.maxAttempts) →
      Settled x left now .deadLettered (x.giveUp left reason)

/-- An item with attempts left is worked on, and then it is decided what becomes of it. -/
theorem Treated.settled (h : Treated x item now (attempted, fate, y))
    (hbudget : item.attempts < item.policy.maxAttempts) :
    ∃ left v, item.Renewed left attempted.toNat ∧ Worked x item attempted fate v ∧
      Settled v left now fate y := by
  -- Only the last reason says that the attempts are exhausted.
  have hother {reason : GivenUp} {P : Prop} (hne : reason.message ≠ GivenUp.exhausted.message)
      (heq : reason.message = GivenUp.exhausted.message) : P := (hne heq).elim
  cases h with
  | unregistered =>
    exact ⟨item, x, item.renewed 0 _ _, .spared (by decide),
      .deadLettered (Nat.le_of_lt hbudget) (hother (by decide))⟩
  | ineligible =>
    exact ⟨item, x, item.renewed 0 _ _, .spared (by decide),
      .deadLettered (Nat.le_of_lt hbudget) (hother (by decide))⟩
  | putOff =>
    exact ⟨item.reschedule now, x, item.renewed 0 _ _, .spared (by decide),
      .rescheduled rfl hbudget⟩
  | delivered _ htried hstatus =>
    exact ⟨item.tried, y, item.renewed 1 _ _, .tried htried (by simp [hstatus]), .delivered⟩
  | @refused p v _ htried hstatus =>
    refine ⟨item.tried, v, item.renewed 1 _ _, .tried htried ?_,
      .deadLettered hbudget (hother ?_)⟩
    · rcases hstatus with hstatus | hstatus <;> simp [hstatus]
    · rcases hstatus with hstatus | hstatus <;> rw [hstatus] <;> decide
  | @exhausted p v _ htried hstatus hspent =>
    exact ⟨{ item.tried with lastError := p.explanation }, v, item.renewed 1 _ _,
      .tried htried (by simp [hstatus]),
      .deadLettered hbudget fun _ => Nat.le_antisymm hbudget hspent⟩
  | @failed p v _ htried hstatus hleft =>
    refine ⟨{ item.tried with lastError := p.explanation }.reschedule now, v, item.renewed 1 _ _,
      .tried htried (by simp [hstatus]), .rescheduled rfl ?_⟩
    exact hleft

/-! ### The books after an item -/

/-- Working on an item touches nothing but the ledger. -/
theorem Worked.frame (h : Worked x item attempted fate y) :
    y.backlog = x.backlog ∧ y.deadLetters = x.deadLetters ∧ y.auctions = x.auctions := by
  cases h with
  | spared => exact ⟨rfl, rfl, rfl⟩
  | tried htried =>
    obtain ⟨label, -, hframe⟩ := htried.recorded
    have hcount := x.countRetry_recounts item.origin
    exact ⟨hframe.backlog.trans hcount.backlog, hframe.deadLetters.trans hcount.deadLetters,
      hframe.auctions.trans hcount.auctions⟩

theorem Worked.backlog (h : Worked x item attempted fate y) : y.backlog = x.backlog := h.frame.1

theorem Worked.deadLetters (h : Worked x item attempted fate y) :
    y.deadLetters = x.deadLetters := h.frame.2.1

theorem Worked.auctions (h : Worked x item attempted fate y) : y.auctions = x.auctions :=
  h.frame.2.2

theorem Settled.ledger (h : Settled x left now fate y) : y.ledger = x.ledger := by
  cases h <;> rfl

theorem Settled.auctions (h : Settled x left now fate y) : y.auctions = x.auctions := by
  cases h <;> rfl

/-- What waits when it was decided about an item, is this item or waited before. -/
theorem Settled.waiting (h : Settled x left now fate y) :
    ∀ i ∈ y.backlog, i.2 = left ∨ i ∈ x.backlog := by
  intro i hi
  cases h with
  | delivered => exact .inr hi
  | deadLettered => exact .inr hi
  | rescheduled =>
    unfold requeue Table.putNew at hi
    split at hi
    · exact .inr hi
    · exact (Table.mem_put hi).imp_left (congrArg Prod.snd)

theorem requeue_eq (h : x.backlog.get? left.key = none) :
    x.requeue left = { x with backlog := x.backlog.put left.key left } := by
  simp [requeue, Table.putNew, Table.has, h]

theorem Settled.get?_self (h : Settled x left now fate y) (hnone : x.backlog.get? left.key = none) :
    y.backlog.get? left.key = if fate = .rescheduled then some left else none := by
  cases h with
  | delivered => simpa using hnone
  | rescheduled => simp [requeue_eq hnone]
  | deadLettered => simpa [giveUp] using hnone

theorem Settled.get?_of_ne (h : Settled x left now fate y)
    (hnone : x.backlog.get? left.key = none) {key : RetryKey} (hkey : key ≠ left.key) :
    y.backlog.get? key = x.backlog.get? key := by
  cases h with
  | delivered => rfl
  | rescheduled => simp [requeue_eq hnone, Table.get?_put_of_ne hkey]
  | deadLettered => rfl

theorem Settled.wellKept (h : Settled x left now fate y) (hx : x.backlog.WellKept) :
    y.backlog.WellKept := by
  cases h with
  | delivered => exact hx
  | rescheduled _ hbudget => exact hx.putNew hbudget
  | deadLettered => exact hx

theorem Settled.deadLetters (h : Settled x left now fate y) :
    ∃ letters, y.deadLetters = x.deadLetters ++ letters ∧
      letters.map (·.item) = if fate = .deadLettered then [left] else [] := by
  cases h with
  | delivered => exact ⟨[], (List.append_nil _).symm, rfl⟩
  | rescheduled => exact ⟨[], (List.append_nil _).symm, rfl⟩
  | @deadLettered reason => exact ⟨[⟨left, reason⟩], rfl, rfl⟩

/-- An item that is not delivered is in the backlog or among the dead letters. -/
theorem Settled.balance (h : Settled x left now fate y) (hnone : x.backlog.get? left.key = none) :
    y.backlog.length + y.deadLetters.length + (if fate = .delivered then 1 else 0) =
      x.backlog.length + x.deadLetters.length + 1 := by
  cases h with
  | delivered => rfl
  | rescheduled =>
    simp [requeue_eq hnone, Table.length_put hnone]
    omega
  | deadLettered =>
    simp [giveUp]
    omega

/-! ### The item of a key -/

/-- The exchange when the item of a key was taken out of the backlog. -/
def without (x : Exchange ω) (key : RetryKey) : Exchange ω :=
  { x with backlog := x.backlog.erase key }

theorem sweepKey_eq [Transport ω] (report : SweepReport) {key : RetryKey} (now clock : Instant)
    (hitem : x.backlog.get? key = some item) :
    x.sweepKey report key now clock =
      (report.add ((x.without key).treat item now clock).1
        ((x.without key).treat item now clock).2.1,
        ((x.without key).treat item now clock).2.2) := by
  simp only [sweepKey, hitem]
  rfl

end Exchange

end PingPost
