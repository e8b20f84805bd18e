import PingPost.Proofs.AuditTrail
import PingPost.Proofs.Completion
import PingPost.Proofs.Confluence
import PingPost.Proofs.Conservation
import PingPost.Proofs.Contract
import PingPost.Proofs.Handover
import PingPost.Proofs.Isolation
import PingPost.Proofs.RetryCount

/-!
What operations that may break off guarantee.

An operation that breaks off has no result (`Exchange.outcome?`), and what it has done to the books
by then stays: a lead that was taken out of the backlog is in no place, a retry is counted that no
entry tells of. So the guarantees about auctions, sweeps and runs are given by those that complete.
Where all buyers are dependable, all of them do.
-/

namespace PingPost

namespace Sample

theorem crowd_dependable : crowd.Dependable ScriptedWorld.Calm .standard where
  toUnhindered := exchange_dependable.toUnhindered.congr ⟨rfl, rfl⟩ rfl rfl
  items := by
    have htimely : ∀ i ∈ crowd.items, (i.policy.maxDelayMs : Int) ≤ Instant.remainingMs ∧
        i.nextAttemptAt.isRepresentable = true := by decide
    exact fun i hi => ⟨(htimely i hi).1, (htimely i hi).2⟩

theorem crowd_wellKept : crowd.backlog.WellKept := by
  have hordered : crowd.backlog.keys.Pairwise (· < ·) := by decide
  exact ⟨List.pairwise_map.mp hordered, by decide +kernel, by decide⟩

/-- The service of the second buyer differs in its priority only. -/
theorem rival_dependable (priority : Nat) : (rival priority).Dependable .standard := by
  obtain ⟨hping, hpost, hdelay⟩ := exchange_dependable.buyers "alpha" (buyer .standard) rfl
  have hservice : service .standard ∈ (buyer .standard).services := List.mem_cons_self
  have hping := hping (service .standard) hservice
  have hpost := hpost (service .standard) hservice
  have hdelay := hdelay (service .standard) hservice
  exact ⟨List.forall_mem_singleton.mpr hping, List.forall_mem_singleton.mpr hpost,
    List.forall_mem_singleton.mpr hdelay⟩

theorem rivalry_dependable {priority : Nat} {hook : Hook} {script : Script}
    (hcalm : (rivalry priority hook script).world.Calm) :
    (rivalry priority hook script).Dependable ScriptedWorld.Calm .standard where
  world := hcalm
  catalogue := by
    dsimp only [rivalry]
    exact exchange_dependable.catalogue
  buyers := exchange_dependable.buyers.upsert (rival_dependable priority)
  uninterrupted := rfl
  items := fun _ hi => nomatch hi

theorem outbidding_calm : outbidding.world.Calm := rivalry_calm 1 ⟨.ok, .ok⟩ 200 _

theorem failing_calm : failing.world.Calm := rivalry_calm 2 ⟨fun _ => .error "broken", .ok⟩ 503 ""

end Sample

namespace Exchange

variable {ω : Type}

theorem outcome?_eq_some_iff {α : Type} {r z : α × Exchange ω} :
    outcome? r = some z ↔ r.2.completed = true ∧ r = z := by
  unfold outcome?
  rw [Option.ite_none_right_eq_some, Option.some.injEq]

variable [Transport ω]

/-- What has run and not broken off has run. -/
theorem run_of_run? {x y : Exchange ω} {events : List (Event ω)}
    (h : x.run? events = some y) : x.run events = y := by
  induction events generalizing x with
  | nil => exact Option.some.inj h
  | cons e events ih =>
    obtain ⟨z, hz, hrest⟩ := Option.bind_eq_some_iff.mp h
    rw [step?, Option.ite_none_right_eq_some, Option.some.injEq] at hz
    obtain ⟨-, rfl⟩ := hz
    exact ih hrest

/-! ### Auctions -/

/-- **No lead is lost in an auction that completes**: if the lead was offered to bidders and not
sold, it was dropped for being invalid, or it waits for a retry, or it was given up, each of these
exactly in its own case, and a bidder who called it a duplicate or invalid is not offered it again.
An auction among dependable buyers completes. -/
theorem completed_auction_handedOver (x : Exchange ω) (lead : Lead) (now : Instant) :
    (∀ r y, x.auction? lead now = some (r, y) → Bid.ranking r.bids ≠ [] →
      (∀ p ∈ r.attempts, p.success = false) →
      HandedOver x y lead r.id (Bid.ranking r.bids) r.attempts r.retryScheduled ∧
        y.inCalendar = true ∧
        ∀ p ∈ r.attempts, p.status = .duplicate ∨ p.status = .invalid →
          y.backlog.get? ⟨lead.id, p.buyerId⟩ = x.backlog.get? ⟨lead.id, p.buyerId⟩) ∧
    ∀ (calm : ω → Prop) (c : Catalogue), Transport.KeepsFit calm (Buyer.Dependable c) →
      x.Dependable calm c → now.Current →
        ∃ r y, x.auction? lead now = some (r, y) := by
  refine ⟨fun r y h hne hunsold => ?_,
    fun calm c hkeeps hx hnow => ⟨_, _, hx.auction? hkeeps hnow lead⟩⟩
  obtain ⟨hcompleted, heq⟩ := outcome?_eq_some_iff.mp h
  have hhanded := x.runAuction_handedOver lead now
  rw [heq] at hhanded hcompleted
  obtain ⟨hway, hagain⟩ := hhanded hne hunsold
  exact ⟨hway, (Bool.and_eq_true_iff.mp hcompleted).2, hagain⟩

open Sample in
set_option maxRecDepth 10000 in
theorem completed_auction_handedOver_sample :
    ∃ r y, (exchange .standard).auction? lead summer = some (r, y) ∧
      HandedOver (exchange .standard) y lead r.id (Bid.ranking r.bids) r.attempts
        r.retryScheduled := by
  obtain ⟨hhanded, hcompletes⟩ := completed_auction_handedOver (exchange .standard) lead summer
  obtain ⟨r, y, h⟩ := hcompletes _ _ (ScriptedWorld.keepsFit _) exchange_dependable summer_current
  have heq := (outcome?_eq_some_iff.mp h).2
  have hranked : (Bid.ranking ((exchange .standard).runAuction lead summer).1.bids).length = 1 := by
    decide +kernel
  have hunsold : ∀ p ∈ ((exchange .standard).runAuction lead summer).1.attempts,
      p.success = false := by decide +kernel
  rw [heq] at hranked hunsold
  have hne : Bid.ranking r.bids ≠ [] := fun hnil => by simp [hnil] at hranked
  exact ⟨r, y, h, (hhanded r y h hne hunsold).1⟩

/-- **Every auction that completes leaves a complete audit trail**: nothing if nobody was asked,
else one entry for each bidder who had its turn and then one for each PING, with the outcomes as
they were. An auction among dependable buyers completes. -/
theorem completed_auction_auditTrail (x : Exchange ω) (lead : Lead) (now : Instant) :
    (∀ r y, x.auction? lead now = some (r, y) → AuditTrail x lead now r y) ∧
    ∀ (calm : ω → Prop) (c : Catalogue), Transport.KeepsFit calm (Buyer.Dependable c) →
      x.Dependable calm c → now.Current →
        ∃ r y, x.auction? lead now = some (r, y) ∧ AuditTrail x lead now r y := by
  have htrail := x.runAuction_auditTrail lead now
  refine ⟨fun r y h => ?_,
    fun calm c hkeeps hx hnow => ⟨_, _, hx.auction? hkeeps hnow lead, htrail⟩⟩
  rwa [(outcome?_eq_some_iff.mp h).2] at htrail

open Sample in
theorem completed_auction_auditTrail_sample :
    ∃ r y, (exchange .standard).auction? lead summer = some (r, y) ∧
      AuditTrail (exchange .standard) lead summer r y :=
  (completed_auction_auditTrail (exchange .standard) lead summer).2 _ _ (ScriptedWorld.keepsFit _)
    exchange_dependable summer_current

/-- **Buyers do not influence each other's bids in auctions that complete.** Two exchanges that
agree on all that concerns other buyers than the odd one, in worlds that keep buyers apart, get the
same bids of these buyers in the same order, and rank them in the same order. Auctions among
dependable buyers complete. -/
theorem completed_auctions_isolated {ω₁ ω₂ : Type} [Transport ω₁] [Transport ω₂]
    {like : String → ω₁ → ω₂ → Prop} {odd : String} {x₁ : Exchange ω₁} {x₂ : Exchange ω₂}
    (haccord : Accord like odd) (h : ∀ id, id ≠ odd → Alike like id x₁ x₂) (lead : Lead)
    (now : Instant) :
    (∀ r₁ y₁ r₂ y₂, x₁.auction? lead now = some (r₁, y₁) → x₂.auction? lead now = some (r₂, y₂) →
      (r₁.bids.filter fun b => b.buyerId ≠ odd) = (r₂.bids.filter fun b => b.buyerId ≠ odd) ∧
      ((Bid.ranking r₁.bids).filter fun b => b.buyerId ≠ odd) =
        ((Bid.ranking r₂.bids).filter fun b => b.buyerId ≠ odd)) ∧
    ∀ (calm₁ : ω₁ → Prop) (calm₂ : ω₂ → Prop) (c : Catalogue),
      Transport.KeepsFit calm₁ (Buyer.Dependable c) →
      Transport.KeepsFit calm₂ (Buyer.Dependable c) →
      x₁.Dependable calm₁ c → x₂.Dependable calm₂ c → now.Current →
        (∃ r₁ y₁, x₁.auction? lead now = some (r₁, y₁)) ∧
          ∃ r₂ y₂, x₂.auction? lead now = some (r₂, y₂) := by
  refine ⟨fun r₁ y₁ r₂ y₂ h₁ h₂ => ?_, fun calm₁ calm₂ c hkeeps₁ hkeeps₂ hx₁ hx₂ hnow =>
    ⟨⟨_, _, hx₁.auction? hkeeps₁ hnow lead⟩, _, _, hx₂.auction? hkeeps₂ hnow lead⟩⟩
  have hisolated := runAuction_isolated haccord h lead now
  rwa [(outcome?_eq_some_iff.mp h₁).2, (outcome?_eq_some_iff.mp h₂).2] at hisolated

open Sample in
/-- The first buyer bids the same whether the second one outbids it or fails. -/
theorem completed_auctions_isolated_sample :
    ∃ r₁ y₁ r₂ y₂, outbidding.auction? lead summer = some (r₁, y₁) ∧
      failing.auction? lead summer = some (r₂, y₂) ∧
      (r₁.bids.filter fun b => b.buyerId ≠ "beta") = (r₂.bids.filter fun b => b.buyerId ≠ "beta") ∧
      ((Bid.ranking r₁.bids).filter fun b => b.buyerId ≠ "beta") =
        ((Bid.ranking r₂.bids).filter fun b => b.buyerId ≠ "beta") := by
  obtain ⟨hisolated, hcomplete⟩ := completed_auctions_isolated (ScriptedWorld.accord "beta")
    (rivalry_alike outbidding_calm failing_calm) lead summer
  obtain ⟨⟨r₁, y₁, h₁⟩, r₂, y₂, h₂⟩ := hcomplete _ _ _ (ScriptedWorld.keepsFit _)
    (ScriptedWorld.keepsFit _) (rivalry_dependable outbidding_calm)
    (rivalry_dependable failing_calm) summer_current
  exact ⟨r₁, y₁, r₂, y₂, h₁, h₂, hisolated r₁ y₁ r₂ y₂ h₁ h₂⟩

end Exchange

namespace Sample

/-- The service with a template for PINGs that asks for what cannot be written. -/
def disruption : Service := { service .standard with pingTemplate := ⟨[unwritable], [], none⟩ }

/-- The second buyer with this service. -/
def disruptor : Buyer := { rival 1 with services := [disruption] }

/-- The market in which the second buyer has it. -/
def disrupted : Exchange ScriptedWorld :=
  { outbidding with registry := outbidding.registry.upsert disruptor }

theorem disrupted_alike (id : String) (hid : id ≠ "beta") :
    Exchange.Alike ScriptedWorld.Like id outbidding disrupted where
  catalogue := rfl
  limit := rfl
  hook := rfl
  registered := by
    have hother : id ≠ disruptor.id := hid
    rw [disrupted, Registry.get?_upsert_of_ne hother]
  vocabulary := rfl
  world := ⟨rfl, rfl, outbidding_calm, outbidding_calm⟩

theorem disruptor_breaksOff :
    disrupted.engine.pingPayload lead disruptor disruption summer = .error .brokenOff := by
  have hcatalogue : disrupted.engine.catalogue = .standard :=
    (rivalry_dependable outbidding_calm).catalogue
  refine Engine.payload_of_breaksOff (by decide) (by decide) (by decide) rfl
    List.mem_cons_self ?_
  rw [hcatalogue]
  exact unwritable_breaksOff rfl

theorem disruptor_asked : ⟨disruptor, disruption⟩ ∈ disrupted.participants lead := by
  have hget : disrupted.registry.get? "beta" = some disruptor :=
    outbidding.registry.get?_upsert_self disruptor
  have hservice : disruptor.serviceFor? lead = some disruption := rfl
  refine List.mem_filterMap.mpr ⟨disruptor, Registry.mem_eligible.mpr ⟨hget, ?_⟩, ?_⟩
  · exact ⟨_, hservice⟩
  · rw [hservice]
    rfl

end Sample

namespace Exchange

open Sample in
set_option maxRecDepth 10000 in
/-- One buyer, who may be registered, takes the bids of all others with it: its PING breaks the
auction off. -/
theorem auction_disrupted :
    disruptor.checkAll.isOk = true ∧
      (∀ id, id ≠ "beta" → Alike ScriptedWorld.Like id outbidding disrupted) ∧
      (∃ r y, outbidding.auction? lead summer = some (r, y)) ∧
      disrupted.auction? lead summer = none := by
  have hdependable := rivalry_dependable outbidding_calm
  have hcompletes := hdependable.auction? (ScriptedWorld.keepsFit _) summer_current lead
  refine ⟨by decide, disrupted_alike, ⟨_, _, hcompletes⟩,
    auction?_eq_none (by decide) disruptor_asked disruptor_breaksOff⟩

variable {ω : Type} [Transport ω]

/-! ### Sweeps -/

/-- **A sweep that completes loses no item and reports exactly**, in whatever order it takes the due
items. A sweep among dependable buyers completes. -/
theorem completed_sweep_conserves (x : Exchange ω) (hx : x.backlog.WellKept) (now clock : Instant) :
    (∀ report y, x.sweep? now clock = some (report, y) → ∃ ts, Conserved x now ts report y) ∧
    (∀ keys, keys.Perm (x.backlog.dueKeys now) → ∀ report y,
      x.sweepKeys? now clock keys = some (report, y) → ∃ ts, Conserved x now ts report y) ∧
    ∀ (calm : ω → Prop) (c : Catalogue), Transport.KeepsFit calm (Buyer.Dependable c) →
      x.Dependable calm c → now.Current →
        ∀ keys, ∃ report y, x.sweepKeys? now clock keys = some (report, y) := by
  have hkeys (keys : List RetryKey) (hperm : keys.Perm (x.backlog.dueKeys now))
      (report : SweepReport) (y : Exchange ω)
      (h : x.sweepKeys? now clock keys = some (report, y)) : ∃ ts, Conserved x now ts report y := by
    have hconserved := sweepKeys_conserved hx now clock hperm
    rwa [(outcome?_eq_some_iff.mp h).2] at hconserved
  exact ⟨hkeys _ (.refl _), hkeys, fun calm c hkeeps hdependable hnow keys =>
    ⟨_, _, hdependable.sweepKeys? hkeeps hnow clock keys⟩⟩

open Sample in
set_option maxRecDepth 10000 in
theorem completed_sweep_conserves_sample :
    (crowd.backlog.due summer).length = 2 ∧
      ∃ report y ts, crowd.sweep? summer summer = some (report, y) ∧
        Conserved crowd summer ts report y := by
  obtain ⟨hconserved, -, hcompletes⟩ :=
    completed_sweep_conserves crowd crowd_wellKept summer summer
  obtain ⟨report, y, h⟩ := hcompletes _ _ (ScriptedWorld.keepsFit _) crowd_dependable summer_current
    (crowd.backlog.dueKeys summer)
  obtain ⟨ts, hts⟩ := hconserved report y h
  exact ⟨by decide, report, y, ts, h, hts⟩

end Exchange

namespace Sample

/-- The buyer with a template for POSTs that asks for what cannot be written. -/
def misled : Buyer :=
  { buyer .standard with
    services := [{ service .standard with postTemplate := ⟨[unwritable], [], none⟩ }] }

end Sample

namespace Exchange

open Sample in
set_option maxRecDepth 10000 in
/-- Two leads wait at a buyer, who may be registered, and the sweep that takes one of them out of
the backlog to offer it breaks off. -/
theorem sweep_interrupted :
    misled.checkAll.isOk = true ∧ (crowd.backlog.due summer).length = 2 ∧
      { crowd with registry := crowd.registry.upsert misled }.sweep? summer summer = none :=
  ⟨by decide, by decide, Option.isNone_iff_eq_none.mp (by decide)⟩

variable {ω : Type} [Transport ω]

/-- **A sweep does not depend on the order in which it takes the due items**, in a steady world: two
sweeps in different orders break off both, or they complete with the same report, the same backlog,
the same retries counted, and the same new dead letters and entries up to their order. The ids of
entries that items name as their origins are those of entries that are there. A sweep among
dependable buyers completes. -/
theorem completed_sweep_confluent {calm : ω → Prop} {x : Exchange ω} {now : Instant}
    (hsteady : Transport.Steady calm) (hcalm : calm x.world) (hordered : x.backlog.Ordered)
    (hkeyed : ∀ e ∈ x.backlog, e.2.key = e.1)
    (horigin : ∀ e ∈ x.backlog, ∀ i ∈ e.2.origin,
      i < x.ledger.length ∨ x.ledger.length + (x.backlog.dueKeys now).length ≤ i)
    (clock : Instant) {keys keys' : List RetryKey} (hkeys : keys.Perm (x.backlog.dueKeys now))
    (hkeys' : keys'.Perm (x.backlog.dueKeys now)) :
    Option.Rel (SameEnd x) (x.sweepKeys? now clock keys) (x.sweepKeys? now clock keys') ∧
    ∀ (mild : ω → Prop) (c : Catalogue), Transport.KeepsFit mild (Buyer.Dependable c) →
      x.Dependable mild c → now.Current →
        ∃ z z', x.sweepKeys? now clock keys = some z ∧ x.sweepKeys? now clock keys' = some z' ∧
          SameEnd x z z' := by
  have hrel := sweepKeys?_rel hsteady hcalm hordered hkeyed horigin clock hkeys hkeys'
  refine ⟨hrel, fun mild c hkeeps hx hnow => ?_⟩
  have hdone := hx.sweepKeys? hkeeps hnow clock
  rw [hdone keys, hdone keys'] at hrel
  obtain ⟨hend⟩ := hrel
  exact ⟨_, _, hdone keys, hdone keys', hend⟩

open Sample in
set_option maxRecDepth 10000 in
theorem completed_sweep_confluent_sample :
    crowd.backlog.dueKeys summer = [⟨"lead-1", "alpha"⟩, ⟨"lead-2", "alpha"⟩] ∧
      ∃ z z',
        crowd.sweepKeys? summer summer [⟨"lead-1", "alpha"⟩, ⟨"lead-2", "alpha"⟩] = some z ∧
        crowd.sweepKeys? summer summer [⟨"lead-2", "alpha"⟩, ⟨"lead-1", "alpha"⟩] = some z' ∧
        SameEnd crowd z z' := by
  have hdue : crowd.backlog.dueKeys summer = [⟨"lead-1", "alpha"⟩, ⟨"lead-2", "alpha"⟩] := by
    decide
  have horigin : ∀ e ∈ crowd.backlog, ∀ i ∈ e.2.origin, i < crowd.ledger.length := by
    decide
  have hforth : [⟨"lead-1", "alpha"⟩, ⟨"lead-2", "alpha"⟩].Perm (crowd.backlog.dueKeys summer) :=
    .of_eq hdue.symm
  have hback : [⟨"lead-2", "alpha"⟩, ⟨"lead-1", "alpha"⟩].Perm (crowd.backlog.dueKeys summer) :=
    (List.Perm.swap _ _ _).trans hforth
  have hconfluent := completed_sweep_confluent crowd_steady ⟨rfl, rfl⟩
    crowd_wellKept.ordered crowd_wellKept.keyed (fun e he i hi => .inl (horigin e he i hi))
    summer hforth hback
  exact ⟨hdue, hconfluent.2 _ _ (ScriptedWorld.keepsFit _) crowd_dependable summer_current⟩

/-! ### Runs -/

/-- **The ledger is only added to, and its numbers of retries are exact**, in every run that does
not break off: the ledger at a moment is the beginning of the ledger at every later moment up to
numbers of retries that have grown, and at every moment each entry about a POST has the number of
the retries at its buyer after its auction. A run among dependable buyers does not break off. -/
theorem completed_run_counted (settings : ExchangeSettings) (registry : Registry)
    (secrets : Table String String) (world : ω) (before after : List (Event ω)) :
    (∀ x y, (Exchange.fresh settings registry secrets world).run? before = some x →
      x.run? after = some y → x.ledger.Grows y.ledger ∧ x.ledger.Counted) ∧
    ∀ calm : ω → Prop, Transport.KeepsFit calm (Buyer.Dependable .standard) → calm world →
      registry.All (Buyer.Dependable .standard) →
      (∀ e ∈ before ++ after, e.Dependable calm .standard) →
        ∃ x y, (Exchange.fresh settings registry secrets world).run? before = some x ∧
          x.run? after = some y := by
  refine ⟨fun x y hx hy => ?_, fun calm hkeeps hworld hbuyers hevents => ?_⟩
  · have hcounted := run_ledger_counted settings registry secrets world before after
    rwa [run_append, run_of_run? hx, run_of_run? hy] at hcounted
  · have hfresh : (Exchange.fresh settings registry secrets world).Dependable calm .standard :=
      ⟨⟨hworld, fresh_catalogue .., hbuyers, rfl⟩,
        fun i hi => by simp [items, Exchange.fresh] at hi⟩
    obtain ⟨hbefore, hafter⟩ := List.forall_mem_append.mp hevents
    exact ⟨_, _, hfresh.run? hkeeps hbefore, (hfresh.run hkeeps hbefore).run? hkeeps hafter⟩

open Sample in
theorem completed_run_counted_sample :
    ∃ x y, (exchange .standard).run? [.auction lead summer] = some x ∧
      x.run? [.sweep (summer.addMillis 60000) summer] = some y ∧
      x.ledger.Grows y.ledger ∧ x.ledger.Counted := by
  obtain ⟨hcounted, hcompletes⟩ := completed_run_counted .standard (.ofBuyers [buyer .standard]) []
    (exchange .standard).world [.auction lead summer] [.sweep (summer.addMillis 60000) summer]
  have hevents : ∀ e ∈ [Event.auction lead summer] ++ [.sweep (summer.addMillis 60000) summer],
      e.Dependable ScriptedWorld.Calm .standard :=
    List.forall_mem_cons.mpr ⟨summer_current, List.forall_mem_singleton.mpr later_current⟩
  obtain ⟨x, y, hx, hy⟩ := hcompletes _ (ScriptedWorld.keepsFit _) (exchange_calm .standard)
    exchange_dependable.buyers hevents
  exact ⟨x, y, hx, hy, hcounted x y hx hy⟩

end Exchange

end PingPost
