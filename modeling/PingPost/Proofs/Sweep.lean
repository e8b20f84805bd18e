import PingPost.Exchange.Run
import PingPost.Proofs.Books

/-!
Sweeps: what becomes of an item that is taken out of the backlog.

`Exchange.Treated` lists the ways in which an item may be treated, and `Exchange.treat_spec` says
that there is no other. A sweep is a run in which its items are treated one by one and others act
before each of them (`Exchange.sweep_eq_run`), so what every other step keeps holds after every run
(`Exchange.run_induction`).
-/

namespace PingPost.Exchange

variable {ω : Type}

/-- A retry of an item: the entry that led to it counts one retry more, and the POST is put on
record. -/
structure Tried (x : Exchange ω) (item : RetryItem) (p : PostResult) (y : Exchange ω) : Prop where
  buyerId : p.buyerId = item.buyerId
  recorded : ∃ label : Label, (label = .delivered ↔ p.success = true) ∧
    (x.countRetry item.origin).Appends
      [p.toEntry item.lead.id label
        (.ofRetry item.auction item.bidAmount item.tried.attempts)] y

/-- The ways in which an item may be treated: whether an attempt was made, what became of the
item, and the exchange afterwards. -/
inductive Treated (x : Exchange ω) (item : RetryItem) (now : Instant) :
    Bool × SweepEnd × Exchange ω → Prop where
  | unregistered :
      x.registry.get? item.buyerId = none →
      Treated x item now (false, .deadLettered, x.giveUp item .unregistered)
  | ineligible {buyer : Buyer} :
      x.registry.get? item.buyerId = some buyer → buyer.serviceFor? item.lead = none →
      Treated x item now (false, .deadLettered, x.giveUp item .ineligible)
  | putOff :
      x.registry.isEligible item.buyerId item.lead = true →
      Treated x item now (false, .rescheduled, x.requeue (item.reschedule now))
  | delivered {p : PostResult} {y : Exchange ω} :
      x.registry.isEligible item.buyerId item.lead = true → Tried x item p y →
      p.status = .delivered →
      Treated x item now (true, .delivered, y)
  | refused {p : PostResult} {y : Exchange ω} :
      x.registry.isEligible item.buyerId item.lead = true → Tried x item p y →
      p.status = .duplicate ∨ p.status = .invalid →
      Treated x item now (true, .deadLettered, y.giveUp item.tried (.answered p.status))
  | exhausted {p : PostResult} {y : Exchange ω} :
      x.registry.isEligible item.buyerId item.lead = true → Tried x item p y →
      p.status = .failed → item.policy.maxAttempts ≤ item.tried.attempts →
      Treated x item now
        (true, .deadLettered, y.giveUp { item.tried with lastError := p.explanation } .exhausted)
  | failed {p : PostResult} {y : Exchange ω} :
      x.registry.isEligible item.buyerId item.lead = true → Tried x item p y →
      p.status = .failed → item.tried.attempts < item.policy.maxAttempts →
      Treated x item now (true, .rescheduled,
        y.requeue ({ item.tried with lastError := p.explanation }.reschedule now))

variable [Transport ω]

/-- Every item is treated in one of the ways. -/
theorem treat_spec (x : Exchange ω) (item : RetryItem) (now clock : Instant) :
    Treated x item now (x.treat item now clock) := by
  unfold treat
  split
  · exact .unregistered ‹_›
  rename_i buyer hbuyer
  split
  · exact .ineligible hbuyer ‹_›
  rename_i service hservice
  have heligible : x.registry.isEligible item.buyerId item.lead = true := by
    simp [Registry.isEligible, hbuyer, hservice]
  split
  · rcases hdeliver : (x.countRetry item.tried.origin).deliver item.tried.lead buyer service
      (.ofRetry item.tried.auction item.tried.bidAmount item.tried.attempts) clock with ⟨p, y⟩
    obtain ⟨hid, -, hrecorded⟩ := deliver_appends _ _ _ _ _ _ hdeliver
    have htried : Tried x item p y := ⟨hid.trans (Registry.id_of_get? hbuyer), hrecorded⟩
    simp only [attempt, hdeliver, place]
    split
    · exact .delivered heligible htried ‹_›
    · exact .refused heligible htried (.inl ‹_›)
    · exact .refused heligible htried (.inr ‹_›)
    · rename_i hfailed
      unfold placeFailed
      split
      · exact .exhausted heligible htried hfailed ‹_›
      · exact .failed heligible htried hfailed (Nat.not_le.mp ‹_›)
  · exact .putOff heligible

/-! ### A sweep as a run -/

/-- Others act, and the item of a key is treated. -/
def sweepEvents (now clock : Instant) (key : RetryKey) : List (Event ω) :=
  [.others Transport.meanwhile, .sweepItem key now clock]

/-- The report is only counted along. -/
theorem sweepKey_exchange (x : Exchange ω) (report : SweepReport) (key : RetryKey)
    (now clock : Instant) :
    (x.sweepKey report key now clock).2 = (x.sweepKey .empty key now clock).2 := by
  unfold sweepKey
  split <;> rfl

theorem sweepKeys_eq_run (x : Exchange ω) (report : SweepReport) (now clock : Instant)
    (keys : List RetryKey) :
    (x.sweepKeys report now clock keys).2 = x.run (keys.flatMap (sweepEvents now clock)) := by
  induction keys generalizing x report with
  | nil => rfl
  | cons key keys ih =>
    rw [sweepKeys, ih, sweepKey_exchange]
    rfl

/-- A sweep is a run in which the due items are treated one by one. -/
theorem sweep_eq_run (x : Exchange ω) (now clock : Instant) :
    (x.sweep now clock).2 = x.run ((x.backlog.dueKeys now).flatMap (sweepEvents now clock)) :=
  x.sweepKeys_eq_run .empty now clock _

/-- What the steps of a sweep keep, holds after it. -/
theorem sweep_induction {P : Exchange ω → Prop}
    (hothers : ∀ x (act : Registry → ω → Registry × ω), P x → P (x.step (.others act)))
    (hitem : ∀ x key now clock, P x → P (x.step (.sweepItem key now clock)))
    {x : Exchange ω} (hx : P x) (now clock : Instant) : P (x.sweep now clock).2 := by
  rw [sweep_eq_run]
  generalize x.backlog.dueKeys now = keys
  induction keys generalizing x with
  | nil => exact hx
  | cons key keys ih => exact ih (hitem _ key now clock (hothers x _ hx))

/-- What every step but a sweep keeps, holds after every run. -/
theorem run_induction {P : Exchange ω → Prop}
    (hstep : ∀ x (event : Event ω), (∀ now clock, event ≠ .sweep now clock) → P x →
      P (x.step event))
    {x : Exchange ω} (hx : P x) (events : List (Event ω)) : P (x.run events) := by
  induction events generalizing x with
  | nil => exact hx
  | cons event events ih =>
    refine ih ?_
    by_cases hsweep : ∃ now clock, event = .sweep now clock
    · obtain ⟨now, clock, rfl⟩ := hsweep
      exact sweep_induction (fun y act => hstep y (.others act) (by simp))
        (fun y key now clock => hstep y (.sweepItem key now clock) (by simp)) hx now clock
    · exact hstep x event (by simpa using hsweep) hx

end PingPost.Exchange
