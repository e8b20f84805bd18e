import PingPost.Proofs.Coherence
import PingPost.Proofs.Layouts
import PingPost.Proofs.Payload
import PingPost.Proofs.Schedule
import PingPost.Proofs.SteadySweeps

/-!
Which operations complete.

An operation breaks off where a transform is to write what cannot be written, or where a date lies
behind the end of the calendar. Both are asked for by the settings of a buyer, who may be registered
with them. A buyer is dependable if its templates ask for no such layout and its policies for no
such delay (`Buyer.Dependable`). While all registered buyers are, nothing breaks off in our time:
every operation gives its result, and so does every run (`Exchange.Dependable.run?`).
-/

namespace PingPost

/-! ### Dependable buyers -/

/-- Whether no template of a buyer ever breaks off, and no delay of its policies leads from our time
behind the end of the calendar. -/
structure Buyer.Dependable (c : Catalogue) (b : Buyer) : Prop where
  ping : ∀ s ∈ b.services, ∀ facts, s.pingTemplate.breaksOff c facts = false
  post : ∀ s ∈ b.services, ∀ facts, s.postTemplate.breaksOff c facts = false
  delay : ∀ s ∈ b.services, (s.endpoints.retryPolicy.maxDelayMs : Int) ≤ Instant.remainingMs

/-- Whether the settings of a buyer show that it is dependable where the transforms are the built-in
ones. -/
def Buyer.isDependable (b : Buyer) : Bool :=
  b.services.all fun s => s.pingTemplate.isWritable && s.postTemplate.isWritable &&
    decide ((s.endpoints.retryPolicy.maxDelayMs : Int) ≤ Instant.remainingMs)

theorem Buyer.dependable_of_isDependable {b : Buyer} (h : b.isDependable = true) :
    b.Dependable .standard := by
  have hservice : ∀ s ∈ b.services, (s.pingTemplate.isWritable = true ∧
      s.postTemplate.isWritable = true) ∧
        (s.endpoints.retryPolicy.maxDelayMs : Int) ≤ Instant.remainingMs := by
    simpa [isDependable] using h
  exact ⟨fun s hs => Template.breaksOff_eq_false (hservice s hs).1.1,
    fun s hs => Template.breaksOff_eq_false (hservice s hs).1.2, fun s hs => (hservice s hs).2⟩

variable {ω : Type}

/-- Whether all buyers of a registry have a property. -/
def Registry.All (r : Registry) (fit : Buyer → Prop) : Prop := ∀ id b, r.get? id = some b → fit b

theorem Registry.All.upsert {r : Registry} {fit : Buyer → Prop} (h : r.All fit) {b : Buyer}
    (hb : fit b) : (r.upsert b).All fit := by
  intro id b' hget
  by_cases hid : id = b.id
  · rw [hid, get?_upsert_self] at hget
    cases hget
    exact hb
  · rw [get?_upsert_of_ne hid] at hget
    exact h id b' hget

theorem Registry.All.of_isDependable {r : Registry}
    (h : (r.entries.all fun e => e.2.isDependable) = true) : r.All (Buyer.Dependable .standard) :=
  fun _ _ hget =>
    Buyer.dependable_of_isDependable (List.all_eq_true.mp h _ (Table.mem_of_get? hget))

/-- Whether an act of others leaves a calm world calm and registers fit buyers only. -/
def KeepsFit (calm : ω → Prop) (fit : Buyer → Prop) (act : Registry → ω → Registry × ω) : Prop :=
  ∀ registry world, calm world → registry.All fit →
    (act registry world).1.All fit ∧ calm (act registry world).2

/-- Whether in calm worlds others register fit buyers only. -/
structure Transport.KeepsFit [Transport ω] (calm : ω → Prop) (fit : Buyer → Prop) : Prop where
  send : ∀ {world : ω} (r : Request), calm world → calm (Transport.send world r).2
  effect : ∀ {world : ω} (r : Request), calm world →
    PingPost.KeepsFit calm fit (Transport.send world r).1.effect
  reset : ∀ {world : ω} (buyerId : String), calm world → calm (Transport.reset world buyerId)
  meanwhile : PingPost.KeepsFit calm fit (Transport.meanwhile : Registry → ω → Registry × ω)

/-- Worlds that answer from scripts register nobody as long as no answer comes with an act of
others. -/
theorem ScriptedWorld.keepsFit (fit : Buyer → Prop) :
    Transport.KeepsFit ScriptedWorld.Calm fit where
  send r h := h.send r
  effect r h registry world hworld hfit := by
    rw [send_effect h]
    exact ⟨hfit, hworld⟩
  reset _ h := h
  meanwhile _ _ hworld hfit := ⟨hfit, hworld⟩

/-- Whether an event takes place in our time and registers dependable buyers only. -/
def Event.Dependable (calm : ω → Prop) (c : Catalogue) : Event ω → Prop
  | .upsert _ buyer => buyer.Dependable c
  | .others act => KeepsFit calm (Buyer.Dependable c) act
  | e => e.Current

/-! ### Dependable exchanges -/

/-- Whether the policy of an item leads from our time nowhere behind the end of the calendar, and
its date lies in the calendar. -/
structure RetryItem.Timely (i : RetryItem) : Prop where
  delay : (i.policy.maxDelayMs : Int) ≤ Instant.remainingMs
  date : i.nextAttemptAt.isRepresentable = true

theorem RetryItem.DatedAt.timely {i : RetryItem} {now : Instant} (h : i.DatedAt now)
    (hnow : now.Current) (hdelay : (i.policy.maxDelayMs : Int) ≤ Instant.remainingMs) :
    i.Timely := by
  obtain ⟨attempt, hdate⟩ := h
  refine ⟨hdelay, ?_⟩
  rw [hdate, RetryPolicy.isRepresentable_pause hnow]
  exact RetryPolicy.endsInCalendar_of_le hnow hdelay

theorem Registry.HasPolicy.delay {r : Registry} {p : RetryPolicy} {c : Catalogue}
    (h : r.HasPolicy p) (hall : r.All (Buyer.Dependable c)) :
    (p.maxDelayMs : Int) ≤ Instant.remainingMs := by
  rcases h with rfl | ⟨id, buyer, service, hget, hservice, rfl⟩
  · decide
  · exact (hall id buyer hget).delay service hservice

namespace Exchange

/-- Whether no payload has broken off so far, and none will while the registry stays as it is. -/
structure Unhindered (calm : ω → Prop) (c : Catalogue) (x : Exchange ω) : Prop where
  world : calm x.world
  catalogue : x.engine.catalogue = c
  buyers : x.registry.All (Buyer.Dependable c)
  uninterrupted : x.interrupted = false

/-- Whether besides all items are timely. -/
structure Dependable (calm : ω → Prop) (c : Catalogue) (x : Exchange ω) : Prop
    extends x.Unhindered calm c where
  items : ∀ i ∈ x.items, i.Timely

variable {calm : ω → Prop} {c : Catalogue} {x y : Exchange ω} {now clock : Instant}

theorem Unhindered.congr (h : x.Unhindered calm c) (hsame : x.SameSurroundings y)
    (hengine : y.engine = x.engine) (hinterrupted : y.interrupted = x.interrupted) :
    y.Unhindered calm c where
  world := hsame.world ▸ h.world
  catalogue := hengine ▸ h.catalogue
  buyers := hsame.registry ▸ h.buyers
  uninterrupted := hinterrupted.trans h.uninterrupted

theorem Unhindered.payload (h : x.Unhindered calm c) (kind : CallKind) (lead : Lead) {buyer : Buyer}
    (hbuyer : buyer.Dependable c) {service : Service} (hservice : service ∈ buyer.services)
    (now : Instant) : (x.payload kind lead buyer service now).2.Unhindered calm c := by
  have hsame := x.payload_surroundings kind lead buyer service now
  have hpayload : (x.payload kind lead buyer service now).1 ≠ .error .brokenOff := by
    cases kind with
    | ping =>
      exact Engine.payload_ne_brokenOff (h.catalogue ▸ hbuyer.ping service hservice)
    | post =>
      exact Engine.payload_ne_brokenOff (h.catalogue ▸ hbuyer.post service hservice)
  refine h.congr hsame (payload_engine ..) ?_
  rw [payload_interrupted, Bool.eq_false_iff.mpr (mt Payload.isBrokenOff_iff.mp hpayload)]
  exact Bool.or_false _

theorem Dependable.completed (h : x.Dependable calm c) : x.completed = true := by
  rw [Exchange.completed, h.uninterrupted]
  exact List.all_eq_true.mpr fun i hi => (h.items i hi).date

theorem fresh_catalogue (settings : ExchangeSettings) (registry : Registry)
    (secrets : Table String String) (world : ω) :
    (fresh settings registry secrets world).engine.catalogue = .standard := by
  rw [fresh]
  exact Engine.standard_catalogue

/-! ### Steps -/

theorem Dependable.appends (h : x.Dependable calm c) (hy : y.Unhindered calm c) {es : Ledger}
    (hframe : x.Appends es y) : y.Dependable calm c :=
  ⟨hy, fun i hi => h.items i (hframe.items_eq ▸ hi)⟩

/-- Items whose dates and policies come of what was there before, or of the registry, are timely. -/
theorem Dependable.comesOf (h : x.Dependable calm c) (hnow : now.Current) {registry : Registry}
    (hall : registry.All (Buyer.Dependable c)) {j : RetryItem} (hj : ComesOf x registry now j) :
    j.Timely := by
  cases hj with
  | kept hi hdate hpolicy =>
    obtain ⟨hdelay, hin⟩ := h.items _ hi
    exact ⟨hpolicy ▸ hdelay, hdate ▸ hin⟩
  | putOff hi hpolicy hdate => exact hdate.timely hnow (hpolicy ▸ (h.items _ hi).delay)
  | made hpolicy hdate => exact hdate.timely hnow (hpolicy.delay hall)

variable [Transport ω]

theorem Unhindered.lasting (hkeeps : Transport.KeepsFit calm (Buyer.Dependable c)) :
    Lasting (KeepsFit calm (Buyer.Dependable c)) (Buyer.Dependable c) (Unhindered calm c) where
  congr h hsame := h.congr hsame.toSameSurroundings hsame.engine hsame.interrupted
  vocabulary {x} buyerId h := by
    refine h.congr (vocabulary_surroundings _ buyerId) ?_ ?_ <;>
      unfold Exchange.vocabulary <;> split <;> rfl
  registered h hget := h.buyers _ _ hget
  payload kind lead now h hbuyer hservice := h.payload kind lead hbuyer hservice now
  launch r h := ⟨hkeeps.effect r h.world, hkeeps.send r h.world, h.catalogue, h.buyers,
    h.uninterrupted⟩
  act hact h := by
    obtain ⟨hbuyers, hcalm⟩ := hact _ _ h.world h.buyers
    exact ⟨hcalm, h.catalogue, hbuyers, h.uninterrupted⟩
  meanwhile := hkeeps.meanwhile

namespace Dependable

theorem runAuction (hkeeps : Transport.KeepsFit calm (Buyer.Dependable c))
    (h : x.Dependable calm c) (hnow : now.Current) (lead : Lead) :
    (x.runAuction lead now).2.Dependable calm c := by
  have hy := (Unhindered.lasting hkeeps).runAuction h.toUnhindered lead now
  exact ⟨hy, fun j hj => h.comesOf hnow hy.buyers (x.runAuction_items lead now hj)⟩

theorem sweepItem (hkeeps : Transport.KeepsFit calm (Buyer.Dependable c))
    (h : x.Dependable calm c) (hnow : now.Current) (key : RetryKey) (clock : Instant) :
    (x.step (.sweepItem key now clock)).Dependable calm c := by
  have hy := (Unhindered.lasting hkeeps).sweepKey h.toUnhindered .empty key now clock
  exact ⟨hy, fun j hj => h.comesOf hnow h.buyers (x.sweepItem_items x.registry key now clock hj)⟩

/-- A sweep is its items, with a pause before each of them. -/
theorem sweepKeys (hkeeps : Transport.KeepsFit calm (Buyer.Dependable c))
    (h : x.Dependable calm c) (hnow : now.Current) (report : SweepReport) (clock : Instant)
    (keys : List RetryKey) : (x.sweepKeys report now clock keys).2.Dependable calm c := by
  rw [sweepKeys_eq_run]
  induction keys generalizing x with
  | nil => exact h
  | cons key keys ih =>
    have hothers : (x.step (.others Transport.meanwhile)).Dependable calm c :=
      h.appends ((Unhindered.lasting hkeeps).interlude h.toUnhindered) x.interlude_appends
    exact ih (hothers.sweepItem hkeeps hnow key clock)

theorem upsertBuyer (hkeeps : Transport.KeepsFit calm (Buyer.Dependable c))
    (h : x.Dependable calm c) (buyerId : String) {buyer : Buyer} (hbuyer : buyer.Dependable c) :
    (x.upsertBuyer buyerId buyer).2.Dependable calm c := by
  refine h.appends ?_ (x.upsertBuyer_appends buyerId buyer)
  rcases x.upsertBuyer_cases buyerId buyer with ⟨-, heq⟩ | ⟨e, -, heq⟩ | ⟨-, -, heq⟩
  · exact heq ▸ h.toUnhindered
  · exact heq ▸ h.toUnhindered
  · rw [heq]
    exact ⟨hkeeps.reset buyerId h.world, h.catalogue, h.buyers.upsert hbuyer, h.uninterrupted⟩

/-- Whatever happens, the exchange stays dependable. -/
theorem step (hkeeps : Transport.KeepsFit calm (Buyer.Dependable c)) (h : x.Dependable calm c)
    {event : Event ω} (hevent : event.Dependable calm c) : (x.step event).Dependable calm c := by
  have hlasting := Unhindered.lasting hkeeps
  cases event with
  | auction lead now => exact h.runAuction hkeeps hevent lead
  | request lead now =>
    simp only [Exchange.step, requestAuction]
    split
    · exact h
    · exact h.runAuction hkeeps hevent lead
  | sweep now clock => exact h.sweepKeys hkeeps hevent ..
  | sweepItem key now clock => exact h.sweepItem hkeeps hevent key clock
  | upsert buyerId buyer => exact h.upsertBuyer hkeeps buyerId hevent
  | webhook buyerId signature timestamp body now =>
    obtain ⟨es, -, hframe⟩ := x.receiveWebhook_appends buyerId signature timestamp body now
    exact h.appends (hlasting.receiveWebhook h.toUnhindered ..) hframe
  | preview buyerId kind lead now =>
    exact h.appends (hlasting.preview h.toUnhindered ..) (x.preview_appends buyerId kind lead now)
  | others act => exact ⟨hlasting.act hevent h.toUnhindered, h.items⟩

theorem run (hkeeps : Transport.KeepsFit calm (Buyer.Dependable c)) (h : x.Dependable calm c)
    {events : List (Event ω)} (hevents : ∀ e ∈ events, e.Dependable calm c) :
    (x.run events).Dependable calm c := by
  induction events generalizing x with
  | nil => exact h
  | cons e events ih =>
    obtain ⟨he, hevents⟩ := List.forall_mem_cons.mp hevents
    exact ih (h.step hkeeps he) hevents

/-! ### Outcomes -/

theorem auction? (hkeeps : Transport.KeepsFit calm (Buyer.Dependable c)) (h : x.Dependable calm c)
    (hnow : now.Current) (lead : Lead) : x.auction? lead now = some (x.runAuction lead now) :=
  if_pos (h.runAuction hkeeps hnow lead).completed

theorem sweepKeys? (hkeeps : Transport.KeepsFit calm (Buyer.Dependable c))
    (h : x.Dependable calm c) (hnow : now.Current) (clock : Instant) (keys : List RetryKey) :
    x.sweepKeys? now clock keys = some (x.sweepKeys .empty now clock keys) :=
  if_pos (h.sweepKeys hkeeps hnow .empty clock keys).completed

/-- **Nothing breaks off** in a run in which all buyers are dependable. -/
theorem run? (hkeeps : Transport.KeepsFit calm (Buyer.Dependable c)) (h : x.Dependable calm c)
    {events : List (Event ω)} (hevents : ∀ e ∈ events, e.Dependable calm c) :
    x.run? events = some (x.run events) := by
  induction events generalizing x with
  | nil => rfl
  | cons e events ih =>
    obtain ⟨he, hevents⟩ := List.forall_mem_cons.mp hevents
    have hstep := h.step hkeeps he
    rw [Exchange.run?, step?, if_pos hstep.completed]
    exact ih hstep hevents

end Dependable

/-! ### Interruptions -/

/-- What has broken off stays so. -/
theorem interrupted_lasting :
    Lasting (fun _ => True) (fun _ => True) fun x : Exchange ω => x.interrupted = true where
  congr h hsame := hsame.interrupted.trans h
  vocabulary buyerId h := (vocabulary_interrupted _ buyerId).trans h
  registered _ _ := trivial
  payload kind lead now h _ _ := by rw [payload_interrupted, h, Bool.true_or]
  launch _ h := ⟨trivial, h⟩
  act _ h := h
  meanwhile := trivial

omit [Transport ω] in
theorem start_interrupted {lead : Lead} {ps : List Participant} {p : Participant} (hp : p ∈ ps)
    (hbroken : x.engine.pingPayload lead p.buyer p.service now = .error .brokenOff) (i : Nat) :
    (Board.start x lead now i ps).exchange.interrupted = true := by
  induction ps generalizing x i with
  | nil => cases hp
  | cons q ps ih =>
    rw [Board.start_cons_exchange]
    rcases List.mem_cons.mp hp with rfl | hp
    · have hpayload : Payload.isBrokenOff (x.payload .ping lead p.buyer p.service now).1 = true :=
        Payload.isBrokenOff_iff.mpr hbroken
      have hmade : (x.payload .ping lead p.buyer p.service now).2.interrupted = true := by
        rw [payload_interrupted, hpayload, Bool.or_true]
      exact Board.start_induction (P := fun y => y.interrupted = true) (fun q _ y hy => by
        rw [payload_interrupted, hy, Bool.true_or]) hmade (i + 1)
    · exact ih hp (by rw [payload_engine, hbroken]) (i + 1)

/-- **An auction breaks off when the template of a buyer who is asked does**, whoever the others
are. -/
theorem auction?_eq_none {lead : Lead} (hvalid : lead.check = .ok ()) {p : Participant}
    (hp : p ∈ x.participants lead)
    (hbroken : x.engine.pingPayload lead p.buyer p.service now = .error .brokenOff) :
    x.auction? lead now = none := by
  have hasked : x.participants lead ≠ [] := List.ne_nil_of_mem hp
  have hlasting := interrupted_lasting (ω := ω)
  have hstart : (x.countAuction.board lead (x.participants lead) now 0).exchange.interrupted =
      true := start_interrupted (x := x.countAuction) hp hbroken 0
  have hend : (x.runAuction lead now).2.interrupted = true := by
    rw [x.runAuction_of_asked lead now hvalid hasked]
    exact hlasting.auctionAmong_of_pings (hlasting.pingAll_of_start hstart) _
  exact if_neg (by simp [Exchange.completed, hend])

end Exchange

namespace Sample

theorem exchange_dependable : (exchange .standard).Dependable ScriptedWorld.Calm .standard where
  world := exchange_calm .standard
  catalogue := Exchange.fresh_catalogue ..
  buyers := .of_isDependable (by decide)
  uninterrupted := rfl
  items := fun _ hi => nomatch hi

end Sample

end PingPost
