import PingPost.Proofs.Backoff
import PingPost.Proofs.BookMoves
import PingPost.Proofs.LastingProperties
import PingPost.Proofs.Sample
import PingPost.Proofs.Timestamps

/-!
Whether the next attempt has a date.

The calendar ends with the year 262142, and a policy may name delays that lead beyond it. A delay
that is no signed 64-bit word is replaced by 52 weeks (`RetryPolicy.pauseMs`), but most delays that
lead beyond the calendar are such words. So an item has a date just when its delay ends in the
calendar or is no such word (`RetryPolicy.EndsInCalendar`). The dates of an exchange are all made by
adding a pause to the time of an auction or a sweep (`Exchange.ComesOf`), so this decides whether
any date lies beyond the calendar, and none does while the longest delays stay below 260 thousand
years (`Exchange.dates_exact`).
-/

namespace PingPost

namespace Instant

/-- Milliseconds since the start of 1970; those of a leap second are those of the second before. -/
def millis (t : Instant) : Int := t.seconds * 1000 + (t.nanos % nanosPerSecond / 1000000 : Nat)

/-- The milliseconds of a day. -/
def millisPerDay : Int := 86400000

/-- The first millisecond behind the calendar. -/
def endMs : Int := (CivilDate.toDays ⟨CivilDate.lastYear, 12, 31⟩ + 1) * millisPerDay

/-- The milliseconds from the end of the year 2100 to the end of the calendar. -/
def remainingMs : Int :=
  (CivilDate.toDays ⟨CivilDate.lastYear, 12, 31⟩ - CivilDate.toDays ⟨2100, 12, 31⟩) * millisPerDay

/-- An instant of the years 2000 to 2100. -/
structure Current (t : Instant) : Prop where
  first : CivilDate.toDays ⟨2000, 1, 1⟩ ≤ t.days
  last : t.days ≤ CivilDate.toDays ⟨2100, 12, 31⟩
  nanos_lt : t.nanos < 2 * nanosPerSecond

variable {t : Instant}

/-- Adding milliseconds is adding, also within a leap second and out of one. -/
theorem seconds_addMillis (ht : t.nanos < 2 * nanosPerSecond) (ms : Nat) :
    (t.addMillis ms).seconds = (t.millis + ms) / 1000 := by
  by_cases hleap : t.nanos < nanosPerSecond
  · rw [addMillis, if_pos hleap]
    simp only [millis, nanosPerSecond] at hleap ⊢
    omega
  by_cases hstill : t.nanos + ms * 1000000 < 2 * nanosPerSecond
  · rw [addMillis, if_neg hleap, if_pos hstill]
    simp only [millis, nanosPerSecond] at hleap hstill ⊢
    omega
  · rw [addMillis, if_neg hleap, if_neg hstill]
    simp only [millis, nanosPerSecond] at ht hleap ⊢
    omega

theorem days_addMillis (ht : t.nanos < 2 * nanosPerSecond) (ms : Nat) :
    (t.addMillis ms).days = (t.millis + ms) / millisPerDay := by
  rw [days_eq, seconds_addMillis ht, millisPerDay]
  omega

theorem days_eq_millis (t : Instant) : t.days = t.millis / millisPerDay := by
  simp only [days_eq, millis, millisPerDay, nanosPerSecond]
  omega

/-- Milliseconds after an instant of our time there is a date if the calendar has not ended. -/
theorem Current.isRepresentable_addMillis (ht : t.Current) (ms : Nat) :
    (t.addMillis ms).isRepresentable = true ↔ t.millis + ms < endMs := by
  have hfirst := ht.first
  rw [days_eq_millis] at hfirst
  rw [isRepresentable, Bool.and_eq_true, decide_eq_true_eq, decide_eq_true_eq,
    days_addMillis ht.nanos_lt]
  rw [show CivilDate.toDays ⟨2000, 1, 1⟩ = 10957 by decide] at hfirst
  rw [show CivilDate.toDays ⟨CivilDate.firstYear, 1, 1⟩ = -96465292 by decide]
  simp only [endMs, millisPerDay] at hfirst ⊢
  rw [show CivilDate.toDays ⟨CivilDate.lastYear, 12, 31⟩ = 95026236 by decide]
  omega

theorem Current.millis_add_lt (ht : t.Current) {ms : Nat} (hms : (ms : Int) ≤ remainingMs) :
    t.millis + ms < endMs := by
  have hlast := ht.last
  rw [days_eq_millis] at hlast
  simp only [remainingMs, endMs, millisPerDay] at hlast hms ⊢
  omega

end Instant

namespace RetryPolicy

/-- Whether the pause before an attempt ends in the calendar: the delay does, or it is no signed
64-bit word, and is replaced. -/
def EndsInCalendar (p : RetryPolicy) (now : Instant) (attempt : Nat) : Prop :=
  now.millis + p.delayMs attempt < Instant.endMs ∨ Nat.pow 2 63 ≤ p.delayMs attempt

variable {p : RetryPolicy} {now : Instant} {attempt : Nat}

theorem isRepresentable_pause (hnow : now.Current) :
    (now.addMillis (p.pauseMs attempt)).isRepresentable = true ↔ p.EndsInCalendar now attempt := by
  rw [hnow.isRepresentable_addMillis, pauseMs, EndsInCalendar]
  split
  · rename_i hword
    exact (or_iff_left (Nat.not_le.mpr hword)).symm
  · rename_i hlong
    have hyear : now.millis + yearMs < Instant.endMs := hnow.millis_add_lt (by decide)
    exact iff_of_true hyear (.inr (Nat.not_lt.mp hlong))

theorem endsInCalendar_of_le (hnow : now.Current)
    (hlongest : (p.maxDelayMs : Int) ≤ Instant.remainingMs) : p.EndsInCalendar now attempt := by
  refine .inl (hnow.millis_add_lt (Int.le_trans ?_ hlongest))
  exact Int.ofNat_le.mpr (p.delayMs_le attempt)

end RetryPolicy

variable {ω : Type}

/-- Whether the date of an item was made at a time, by adding a pause of its policy. -/
def RetryItem.DatedAt (item : RetryItem) (now : Instant) : Prop :=
  ∃ attempt, item.nextAttemptAt = now.addMillis (item.policy.pauseMs attempt)

/-- An item whose date was made in our time, by adding a pause of its policy. -/
def RetryItem.Scheduled (item : RetryItem) : Prop :=
  ∃ (now : Instant) (attempt : Nat), now.Current ∧
    item.nextAttemptAt = now.addMillis (item.policy.pauseMs attempt)

theorem RetryItem.DatedAt.scheduled {item : RetryItem} {now : Instant} (h : item.DatedAt now)
    (hnow : now.Current) : item.Scheduled := by
  obtain ⟨attempt, hdate⟩ := h
  exact ⟨now, attempt, hnow, hdate⟩

/-- Whether an event takes place in our time. -/
def Event.Current : Event ω → Prop
  | .auction _ now | .request _ now | .sweep now _ | .sweepItem _ now _ => now.Current
  | _ => True

/-- Whether a policy is the one that applies where there is none, or that of a registered buyer. -/
def Registry.HasPolicy (r : Registry) (p : RetryPolicy) : Prop :=
  p = .standard ∨ ∃ id buyer service, r.get? id = some buyer ∧ service ∈ buyer.services ∧
    p = service.endpoints.retryPolicy

namespace Exchange

/-- Where the date and the policy of an item come from that is there after a step: from an item that
was there before, which may have been put off in the step; or the item was made in the step, under a
policy of the registry. -/
inductive ComesOf (x : Exchange ω) (registry : Registry) (now : Instant) (j : RetryItem) : Prop
  | kept {i : RetryItem} : i ∈ x.items → j.nextAttemptAt = i.nextAttemptAt →
    j.policy = i.policy → ComesOf x registry now j
  | putOff {i : RetryItem} : i ∈ x.items → j.policy = i.policy → j.DatedAt now →
    ComesOf x registry now j
  | made : registry.HasPolicy j.policy → j.DatedAt now → ComesOf x registry now j

/-- Whether the dates of all items were made in our time. -/
def Scheduled (x : Exchange ω) : Prop := ∀ i ∈ x.items, i.Scheduled

variable {x y : Exchange ω} {item i j : RetryItem} {now : Instant} {registry : Registry}

/-! ### Items -/

theorem mem_items : i ∈ x.items ↔ (∃ e ∈ x.backlog, e.2 = i) ∨ ∃ d ∈ x.deadLetters, d.item = i := by
  simp only [items, List.mem_append, List.mem_map]

theorem Appends.items_eq {es : Ledger} (h : x.Appends es y) : y.items = x.items := by
  rw [items, items, h.backlog, h.deadLetters]

theorem mem_items_giveUp {reason : GivenUp} (h : i ∈ (x.giveUp item reason).items) :
    i ∈ x.items ∨ i = item := by
  rcases mem_items.mp h with ⟨e, he, rfl⟩ | ⟨d, hd, rfl⟩
  · exact .inl (mem_items.mpr (.inl ⟨e, he, rfl⟩))
  · rcases List.mem_append.mp hd with hd | hd
    · exact .inl (mem_items.mpr (.inr ⟨d, hd, rfl⟩))
    · exact .inr (congrArg DeadLetter.item (List.mem_singleton.mp hd))

theorem mem_items_put {key : RetryKey}
    (h : i ∈ ({ x with backlog := x.backlog.put key item } : Exchange ω).items) :
    i ∈ x.items ∨ i = item := by
  rcases mem_items.mp h with ⟨e, he, rfl⟩ | hd
  · rcases Table.mem_put he with rfl | he
    · exact .inr rfl
    · exact .inl (mem_items.mpr (.inl ⟨e, he, rfl⟩))
  · exact .inl (mem_items.mpr (.inr hd))

theorem mem_items_enqueue (h : i ∈ (x.enqueue item).items) : i ∈ x.items ∨ i = item := by
  unfold enqueue at h
  split at h
  · exact mem_items_giveUp h
  · exact mem_items_put h

theorem mem_items_requeue (h : i ∈ (x.requeue item).items) : i ∈ x.items ∨ i = item := by
  unfold requeue Table.putNew at h
  split at h
  · exact .inl h
  · exact mem_items_put h

theorem mem_items_without {key : RetryKey} (h : i ∈ (x.without key).items) : i ∈ x.items := by
  rcases mem_items.mp h with ⟨e, he, rfl⟩ | hd
  · exact mem_items.mpr (.inl ⟨e, (Table.mem_erase.mp he).1, rfl⟩)
  · exact mem_items.mpr (.inr hd)

/-! ### Auctions and sweeps -/

theorem hasPolicy_of_standing? {id : String} {lead : Lead} {buyer : Buyer} {service : Service}
    (h : registry.standing? id lead = some (buyer, service)) :
    registry.HasPolicy service.endpoints.retryPolicy := by
  simp only [Registry.standing?, Option.bind_eq_some_iff, Option.map_eq_some_iff,
    Prod.mk.injEq] at h
  obtain ⟨b, hget, s, hservice, rfl, rfl⟩ := h
  exact .inr ⟨id, b, s, hget, mem_services_of_serviceFor? hservice, rfl⟩

/-- The item that is made of an auction's lead waits for the pause before the first attempt. -/
theorem mem_items_scheduleRetry {lead : Lead} {id : AuctionId} {ranked : List Bid}
    {posts : List PostResult} (h : i ∈ (x.scheduleRetry lead id ranked posts now).2.items) :
    i ∈ x.items ∨ x.registry.HasPolicy i.policy ∧ i.DatedAt now := by
  unfold scheduleRetry at h
  split at h
  · exact .inl h
  split at h
  · rename_i item hitem
    refine (mem_items_enqueue h).imp_right ?_
    rintro rfl
    obtain ⟨-, bid, -, -, hbid, -⟩ := List.findSome?_eq_some_iff.mp hitem
    simp only [retryAt?] at hbid
    split at hbid
    · cases hbid
    · obtain ⟨⟨buyer, service⟩, hstanding, rfl⟩ := Option.map_eq_some_iff.mp hbid
      exact ⟨hasPolicy_of_standing? hstanding, 1, rfl⟩
  split at h
  · exact .inl h
  · rename_i top _ _
    refine (mem_items_giveUp h).imp_right ?_
    rintro rfl
    have hpolicy : x.registry.HasPolicy
        (((x.registry.standing? top.buyerId lead).map fun s =>
          s.2.endpoints.retryPolicy).getD .standard) := by
      cases hstanding : x.registry.standing? top.buyerId lead with
      | none => exact .inl rfl
      | some s => exact hasPolicy_of_standing? hstanding
    unfold giveUpItem
    split <;> exact ⟨hpolicy, 1, rfl⟩

/-- What became of an item in a sweep is the item, or the item put off. -/
theorem Treated.mem_items {attempted : Bool} {fate : SweepEnd}
    (h : Treated x item now (attempted, fate, y)) (hj : j ∈ y.items) :
    j ∈ x.items ∨ j.policy = item.policy ∧
      (j.nextAttemptAt = item.nextAttemptAt ∨ j.DatedAt now) := by
  have htried {p : PostResult} {z : Exchange ω} (h : Tried x item p z) : z.items = x.items := by
    obtain ⟨label, -, hframe⟩ := h.recorded
    have hcount := x.countRetry_recounts item.origin
    rw [hframe.items_eq, items, items, hcount.backlog, hcount.deadLetters]
  cases h with
  | unregistered =>
    refine (mem_items_giveUp hj).imp_right ?_
    rintro rfl
    exact ⟨rfl, .inl rfl⟩
  | ineligible =>
    refine (mem_items_giveUp hj).imp_right ?_
    rintro rfl
    exact ⟨rfl, .inl rfl⟩
  | putOff =>
    refine (mem_items_requeue hj).imp_right ?_
    rintro rfl
    exact ⟨rfl, .inr ⟨_, rfl⟩⟩
  | delivered _ h => exact .inl (htried h ▸ hj)
  | refused _ h =>
    refine (mem_items_giveUp hj).imp (htried h ▸ ·) ?_
    rintro rfl
    exact ⟨rfl, .inl rfl⟩
  | exhausted _ h =>
    refine (mem_items_giveUp hj).imp (htried h ▸ ·) ?_
    rintro rfl
    exact ⟨rfl, .inl rfl⟩
  | failed _ h =>
    refine (mem_items_requeue hj).imp (htried h ▸ ·) ?_
    rintro rfl
    exact ⟨rfl, .inr ⟨_, rfl⟩⟩

variable [Transport ω]

theorem runAuction_items (x : Exchange ω) (lead : Lead) (now : Instant)
    (hj : j ∈ (x.runAuction lead now).2.items) :
    ComesOf x (x.runAuction lead now).2.registry now j := by
  have hspec := x.runAuction_spec lead now
  generalize x.runAuction lead now = outcome at hspec hj ⊢
  rcases outcome with ⟨r, y⟩
  have hkept (h : j ∈ x.countAuction.items) : ComesOf x y.registry now j := .kept h rfl rfl
  cases hspec with
  | invalid _ hframe => exact hkept (hframe.items_eq ▸ hj)
  | unattended _ _ hframe => exact hkept (hframe.items_eq ▸ hj)
  | unsold _ _ hframe => exact hkept (hframe.items_eq ▸ hj)
  | sold _ _ hframe => exact hkept (hframe.items_eq ▸ hj)
  | @exhausted pings posts es w z _ queued _ _ _ hbefore hretry hafter hregistry =>
    rw [hafter.items_eq] at hj
    have hsame := w.scheduleRetry_surroundings lead (.issued x.auctions)
      (Bid.ranking (pings.map (·.bid))) posts now
    have hmem : j ∈ (w.scheduleRetry lead (.issued x.auctions)
        (Bid.ranking (pings.map (·.bid))) posts now).2.items := by
      rw [hretry]
      exact hj
    rw [hretry] at hsame
    rcases mem_items_scheduleRetry hmem with h | ⟨hpolicy, hdate⟩
    · exact hkept (hbefore.items_eq ▸ h)
    · exact .made (hregistry ▸ hsame.registry ▸ hpolicy) hdate

theorem sweepItem_items (x : Exchange ω) (registry : Registry) (key : RetryKey)
    (now clock : Instant) (hj : j ∈ (x.step (.sweepItem key now clock)).items) :
    ComesOf x registry now j := by
  rcases x.sweepItem_treated key now clock with hsame | ⟨item, _, _, hitem, htreated⟩
  · exact .kept (hsame ▸ hj) rfl rfl
  · have hmem := mem_items.mpr (.inl ⟨_, Table.mem_of_get? hitem, rfl⟩)
    rcases htreated.mem_items hj with h | ⟨hpolicy, hdate | hdate⟩
    · exact .kept (mem_items_without h) rfl rfl
    · exact .kept hmem hdate hpolicy
    · exact .putOff hmem hpolicy hdate

/-! ### Dates -/

omit [Transport ω] in
theorem Scheduled.comesOf (h : x.Scheduled) (hnow : now.Current) (hj : ComesOf x registry now j) :
    j.Scheduled := by
  cases hj with
  | kept hi hdate hpolicy =>
    rw [RetryItem.Scheduled, hdate, hpolicy]
    exact h _ hi
  | putOff _ _ hdate => exact hdate.scheduled hnow
  | made _ hdate => exact hdate.scheduled hnow

omit [Transport ω] in
theorem Scheduled.appends (h : x.Scheduled) {es : Ledger} (hframe : x.Appends es y) :
    y.Scheduled :=
  fun i hi => h i (hframe.items_eq ▸ hi)

theorem Scheduled.runAuction (h : x.Scheduled) (hnow : now.Current) (lead : Lead) :
    (x.runAuction lead now).2.Scheduled :=
  fun _ hj => h.comesOf hnow (x.runAuction_items lead now hj)

theorem Scheduled.sweepItem (h : x.Scheduled) (hnow : now.Current) (key : RetryKey)
    (clock : Instant) : (x.step (.sweepItem key now clock)).Scheduled :=
  fun _ hj => h.comesOf hnow (x.sweepItem_items x.registry key now clock hj)

theorem Scheduled.sweep (h : x.Scheduled) (hnow : now.Current) (clock : Instant) :
    (x.sweep now clock).2.Scheduled := by
  rw [sweep_eq_run]
  generalize x.backlog.dueKeys now = keys
  induction keys generalizing x with
  | nil => exact h
  | cons key keys ih =>
    have hothers : (x.step (.others Transport.meanwhile)).Scheduled := h
    exact ih (hothers.sweepItem hnow key clock)

/-- Every date is made in an auction or a sweep. -/
theorem Scheduled.step (h : x.Scheduled) {event : Event ω} (hevent : event.Current) :
    (x.step event).Scheduled := by
  cases event with
  | auction lead now => exact h.runAuction hevent lead
  | request lead now =>
    simp only [Exchange.step, requestAuction]
    split
    · exact h
    · exact h.runAuction hevent lead
  | sweep now clock => exact h.sweep hevent clock
  | sweepItem key now clock => exact h.sweepItem hevent key clock
  | upsert buyerId buyer => exact h.appends (x.upsertBuyer_appends buyerId buyer)
  | webhook buyerId signature timestamp body now =>
    obtain ⟨es, -, hframe⟩ := x.receiveWebhook_appends buyerId signature timestamp body now
    exact h.appends hframe
  | preview buyerId kind lead now => exact h.appends (x.preview_appends buyerId kind lead now)
  | others act => exact h

theorem Scheduled.run (h : x.Scheduled) {events : List (Event ω)}
    (hevents : ∀ e ∈ events, e.Current) : (x.run events).Scheduled := by
  induction events generalizing x with
  | nil => exact h
  | cons e events ih =>
    obtain ⟨he, hevents⟩ := List.forall_mem_cons.mp hevents
    exact ih (h.step he) hevents

/-- **Which items have a date.** A new item has one just when the first delay of its policy ends in
the calendar or is no signed 64-bit word, and an item that is put off just when its next one does.
In every run in our time all dates are of these kinds; so all of them lie in the calendar as long as
the items have policies whose longest delays end in it. -/
theorem dates_exact :
    (∀ (lead : Lead) (buyerId : String) (policy : RetryPolicy) (now : Instant), now.Current →
      ((RetryItem.fresh lead buyerId policy now).nextAttemptAt.isRepresentable = true ↔
        policy.EndsInCalendar now 1)) ∧
    (∀ (item : RetryItem) (now : Instant), now.Current →
      ((item.reschedule now).nextAttemptAt.isRepresentable = true ↔
        item.policy.EndsInCalendar now (item.attempts + 1))) ∧
    ∀ (settings : ExchangeSettings) (registry : Registry) (secrets : Table String String)
      (world : ω) (events : List (Event ω)), (∀ e ∈ events, e.Current) →
      (∀ item ∈ ((Exchange.fresh settings registry secrets world).run events).items,
        ∃ (now : Instant) (attempt : Nat), now.Current ∧
          item.nextAttemptAt = now.addMillis (item.policy.pauseMs attempt) ∧
          (item.nextAttemptAt.isRepresentable = true ↔
            item.policy.EndsInCalendar now attempt)) ∧
      ((∀ item ∈ ((Exchange.fresh settings registry secrets world).run events).items,
          (item.policy.maxDelayMs : Int) ≤ Instant.remainingMs) →
        ((Exchange.fresh settings registry secrets world).run events).inCalendar = true) := by
  refine ⟨fun _ _ _ _ => RetryPolicy.isRepresentable_pause,
    fun _ _ => RetryPolicy.isRepresentable_pause,
    fun settings registry secrets world events hevents => ?_⟩
  have hfresh : (Exchange.fresh settings registry secrets world).Scheduled := by
    simp [Scheduled, items, Exchange.fresh]
  have hrun := hfresh.run hevents
  refine ⟨fun item hitem => ?_, fun hlongest => List.all_eq_true.mpr fun item hitem => ?_⟩
  · obtain ⟨now, attempt, hnow, hdate⟩ := hrun item hitem
    exact ⟨now, attempt, hnow, hdate, hdate ▸ RetryPolicy.isRepresentable_pause hnow⟩
  · obtain ⟨now, attempt, hnow, hdate⟩ := hrun item hitem
    rw [hdate, RetryPolicy.isRepresentable_pause hnow]
    exact RetryPolicy.endsInCalendar_of_le hnow (hlongest item hitem)

end Exchange

namespace Sample

/-- June 2024. -/
def summer : Instant := ⟨1718000000, 0⟩

theorem summer_current : summer.Current := ⟨by decide, by decide, by decide⟩

theorem later_current : (summer.addMillis 60000).Current := ⟨by decide, by decide, by decide⟩

/-- An auction, and a sweep a minute later. -/
def afternoon : List (Event ScriptedWorld) :=
  [.auction lead summer, .sweep (summer.addMillis 60000) summer]

theorem afternoon_current : ∀ e ∈ afternoon, e.Current := by
  simp only [afternoon, List.forall_mem_cons, Event.Current]
  exact ⟨summer_current, later_current, List.forall_mem_nil _⟩

/-- A policy with delays of 285 thousand years. -/
def remote : RetryPolicy :=
  { RetryPolicy.standard with baseDelayMs := 9000000000000000, maxDelayMs := 9000000000000000 }

end Sample

namespace Exchange

open Sample

/-- A lead that is put off in a sweep has a date, and a policy may be too long for one. -/
theorem dates_exact_sample :
    summer.Current ∧
      ((RetryItem.fresh lead "alpha" remote summer).nextAttemptAt.isRepresentable = true ↔
        remote.EndsInCalendar summer 1) ∧
      (((RetryItem.fresh lead "alpha" remote summer).reschedule
        summer).nextAttemptAt.isRepresentable = true ↔ remote.EndsInCalendar summer 1) ∧
      (∀ e ∈ afternoon, e.Current) ∧
      (∀ item ∈ ((exchange .standard).run afternoon).items,
        (item.policy.maxDelayMs : Int) ≤ Instant.remainingMs) ∧
      ((exchange .standard).run afternoon).items.length = 1 ∧
      ((exchange .standard).run afternoon).inCalendar = true := by
  have hlongest : ((exchange .standard).run afternoon).items.all fun item =>
      decide ((item.policy.maxDelayMs : Int) ≤ Instant.remainingMs) := by decide +kernel
  have hlongest := fun item hitem => of_decide_eq_true (List.all_eq_true.mp hlongest item hitem)
  obtain ⟨hfresh, hlater, hrun⟩ := @dates_exact ScriptedWorld _
  exact ⟨summer_current, hfresh _ _ _ _ summer_current, hlater _ _ summer_current,
    afternoon_current, hlongest, by decide +kernel,
    (hrun _ _ _ _ afternoon afternoon_current).2 hlongest⟩

set_option maxRecDepth 10000 in
/-- The policy can be read and the buyer with it is admitted, but an auction that does not sell the
lead breaks off: the date of the next attempt lies behind the end of the calendar. -/
theorem auction_without_date :
    RetryPolicy.codec.decode? (RetryPolicy.codec.encode remote) = some remote ∧
      (buyer remote).checkAll.isOk = true ∧ summer.Current ∧
      ((exchange remote).runAuction lead summer).2.inCalendar = false := by
  refine ⟨by decide, by decide, summer_current, by decide +kernel⟩

end Exchange

end PingPost
