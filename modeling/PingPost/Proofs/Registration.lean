import PingPost.Exchange.Document
import PingPost.Proofs.LastingProperties
import PingPost.Proofs.Payload
import PingPost.Proofs.Sample

/-!
Registration of buyers.

A registration is accepted as a whole or changes nothing. It is accepted only for a buyer who is in
order, with all templates (`Buyer.Valid`), and nothing else puts buyers into the registry. So all
buyers of a registry that was empty once are in order (`Exchange.Vetted`), and the engine, which
looks at buyer and template again for every payload, never finds anything amiss
(`Exchange.registrations_vetted`).
-/

namespace PingPost

/-- A buyer is in order, and so are the templates of all its services. -/
structure Buyer.Valid (b : Buyer) : Prop where
  itself : b.check = .ok ()
  templates : ∀ s ∈ b.services, s.pingTemplate.check = .ok () ∧ s.postTemplate.check = .ok ()

theorem Buyer.checkAll_eq_ok_iff {b : Buyer} : b.checkAll = .ok () ↔ b.Valid := by
  have hservices (services : List Service) :
      (forIn services PUnit.unit fun s _ => do
        s.pingTemplate.check
        s.postTemplate.check
        pure (.yield PUnit.unit) : Except FieldError PUnit) = .ok ⟨⟩ ↔
      ∀ s ∈ services, s.pingTemplate.check = .ok () ∧ s.postTemplate.check = .ok () := by
    induction services with
    | nil => exact iff_of_true rfl (List.forall_mem_nil _)
    | cons s services ih =>
      rw [List.forIn_cons, List.forall_mem_cons, ← ih]
      cases s.pingTemplate.check with
      | error e => exact iff_of_false nofun nofun
      | ok _ =>
        cases s.postTemplate.check with
        | error e => exact iff_of_false nofun nofun
        | ok _ => exact (and_iff_right ⟨rfl, rfl⟩).symm
  unfold checkAll
  constructor
  · intro h
    obtain ⟨_, hcheck, h⟩ := bind_eq_ok_iff.mp h
    obtain ⟨_, hloop, -⟩ := bind_eq_ok_iff.mp h
    exact ⟨hcheck, (hservices _).mp hloop⟩
  · intro h
    exact bind_eq_ok_iff.mpr ⟨(), h.itself,
      bind_eq_ok_iff.mpr ⟨⟨⟩, (hservices _).mpr h.templates, rfl⟩⟩

/-! ### Payloads -/

/-- The payload of a lead when buyer and template are taken on trust. -/
def Engine.payloadOnTrust (e : Engine) (lead : Lead) (buyer : Buyer) (t : Template)
    (withEvidence : Bool) (now : Instant) : Except TemplateError Fields := do
  lead.check.mapError .invalid
  let facts ← e.before buyer.id (lead.facts now)
  let raw ← e.assemble lead buyer t withEvidence facts
  e.finish t raw

theorem Engine.payload_eq_onTrust (e : Engine) (lead : Lead) {buyer : Buyer} {t : Template}
    (withEvidence : Bool) (now : Instant) (hbuyer : buyer.check = .ok ())
    (ht : t.check = .ok ()) : e.payload lead buyer t withEvidence now =
      e.payloadOnTrust lead buyer t withEvidence now := by
  unfold payload payloadOnTrust
  rw [hbuyer, ht]
  rfl

/-! ### Registries -/

namespace Registry

/-- All buyers of a registry are in order. -/
def Valid (r : Registry) : Prop := ∀ id b, r.get? id = some b → b.Valid

variable {r : Registry}

theorem has_eq_false_iff {id : String} : r.has id = false ↔ r.get? id = none :=
  Option.isSome_eq_false_iff.trans Option.isNone_iff_eq_none

theorem Valid.upsert (h : r.Valid) {b : Buyer} (hb : b.Valid) : (r.upsert b).Valid := by
  intro id b' hget
  by_cases hid : id = b.id
  · rw [hid, get?_upsert_self] at hget
    cases hget
    exact hb
  · rw [get?_upsert_of_ne hid] at hget
    exact h id b' hget

theorem Valid.foldl_upsert (h : r.Valid) {buyers : List Buyer} (hbuyers : ∀ b ∈ buyers, b.Valid) :
    (buyers.foldl Registry.upsert r).Valid := by
  induction buyers generalizing r with
  | nil => exact h
  | cons b buyers ih =>
    obtain ⟨hb, hrest⟩ := List.forall_mem_cons.mp hbuyers
    exact ih (h.upsert hb) hrest

theorem valid_empty : Valid empty := nofun

end Registry

variable {ω : Type}

/-- Whether all that an act of others does to the registry is to have buyers registered, each of
whom is accepted, and whether it leaves a calm world calm. -/
def OnlyRegisters (calm : ω → Prop) (act : Registry → ω → Registry × ω) : Prop :=
  ∀ registry world, calm world →
    (∃ buyers : List Buyer, (∀ b ∈ buyers, b.checkAll = .ok ()) ∧
      (act registry world).1 = buyers.foldl Registry.upsert registry) ∧
    calm (act registry world).2

/-- Whether in calm worlds all that others do to the registry is to have buyers registered. -/
structure Transport.OnlyRegisters [Transport ω] (calm : ω → Prop) : Prop where
  send : ∀ {world : ω} (r : Request), calm world → calm (Transport.send world r).2
  effect : ∀ {world : ω} (r : Request), calm world →
    PingPost.OnlyRegisters calm (Transport.send world r).1.effect
  reset : ∀ {world : ω} (buyerId : String), calm world → calm (Transport.reset world buyerId)
  meanwhile : PingPost.OnlyRegisters calm (Transport.meanwhile : Registry → ω → Registry × ω)

/-- Whether all that an event does to the registry, if it is an act of others, is to have buyers
registered. -/
def Event.OnlyRegisters (calm : ω → Prop) : Event ω → Prop
  | .others act => PingPost.OnlyRegisters calm act
  | _ => True

namespace Exchange

/-! ### One registration -/

/-- A registration is refused and changes nothing, or the buyer is in order. -/
theorem upsertBuyer_refused_or_valid [Transport ω] (x : Exchange ω) (buyerId : String)
    (buyer : Buyer) :
    ((buyer.id ≠ buyerId ∨ ¬buyer.Valid) ∧ ∃ p, x.upsertBuyer buyerId buyer = (.error p, x)) ∨
    (buyer.id = buyerId ∧ buyer.Valid ∧ x.upsertBuyer buyerId buyer =
      (.ok (if x.registry.has buyerId then .updated else .created),
        { x with
          registry := x.registry.upsert buyer
          vocabularies := x.vocabularies.erase buyerId
          world := Transport.reset x.world buyerId })) := by
  rcases x.upsertBuyer_cases buyerId buyer with ⟨hid, heq⟩ | ⟨e, he, heq⟩ | ⟨hid, hall, heq⟩
  · exact .inl ⟨.inl hid, _, heq⟩
  · have hinvalid : ¬buyer.Valid := by
      intro hvalid
      cases he.symm.trans (Buyer.checkAll_eq_ok_iff.mpr hvalid)
    exact .inl ⟨.inr hinvalid, _, heq⟩
  · exact .inr ⟨hid, Buyer.checkAll_eq_ok_iff.mp hall, heq⟩

theorem code_eq_created_iff (r : Registry) (id : String) :
    (if r.has id then Registered.updated else .created).code = 201 ↔ r.get? id = none := by
  rw [← Registry.has_eq_false_iff]
  cases r.has id <;> simp [Registered.code]

/-! ### Runs -/

/-- All buyers are in order, and the world is calm. -/
structure Vetted (calm : ω → Prop) (x : Exchange ω) : Prop where
  world : calm x.world
  registry : x.registry.Valid

namespace Vetted

variable {calm : ω → Prop} {x y : Exchange ω}

theorem congr (h : x.Vetted calm) (hframe : x.SameSurroundings y) : y.Vetted calm where
  world := hframe.world ▸ h.world
  registry := hframe.registry ▸ h.registry

theorem act (h : x.Vetted calm) {act : Registry → ω → Registry × ω}
    (hact : OnlyRegisters calm act) (hworld : y.world = (act x.registry x.world).2)
    (hregistry : y.registry = (act x.registry x.world).1) : y.Vetted calm := by
  obtain ⟨⟨buyers, hbuyers, hfold⟩, hcalm⟩ := hact x.registry x.world h.world
  refine ⟨hworld ▸ hcalm, ?_⟩
  rw [hregistry, hfold]
  exact h.registry.foldl_upsert fun b hb => Buyer.checkAll_eq_ok_iff.mp (hbuyers b hb)

variable [Transport ω]

theorem lasting (hcalm : Transport.OnlyRegisters calm) :
    Lasting (OnlyRegisters calm) (fun _ => True) (Vetted calm) where
  congr h hsame := h.congr hsame.toSameSurroundings
  vocabulary buyerId h := h.congr (vocabulary_surroundings _ buyerId)
  registered _ _ := trivial
  payload _ _ _ h _ _ := h.congr (payload_surroundings ..)
  launch r h := ⟨hcalm.effect r h.world, hcalm.send r h.world, h.registry⟩
  act hact h := h.act hact rfl rfl
  meanwhile := hcalm.meanwhile

theorem upsertBuyer (hcalm : Transport.OnlyRegisters calm) (h : x.Vetted calm) (buyerId : String)
    (buyer : Buyer) : (x.upsertBuyer buyerId buyer).2.Vetted calm := by
  rcases x.upsertBuyer_refused_or_valid buyerId buyer with ⟨-, p, heq⟩ | ⟨rfl, hvalid, heq⟩
  · rwa [heq]
  · rw [heq]
    exact ⟨hcalm.reset buyer.id h.world, h.registry.upsert hvalid⟩

theorem step (hcalm : Transport.OnlyRegisters calm) (h : x.Vetted calm) (e : Event ω)
    (he : e.OnlyRegisters calm) : (x.step e).Vetted calm := by
  cases e with
  | upsert buyerId buyer => exact h.upsertBuyer hcalm buyerId buyer
  | others act => exact (lasting hcalm).step h (.others act) he
  | auction | request | sweep | sweepItem | webhook | preview =>
    exact (lasting hcalm).step h _ trivial

theorem run (hcalm : Transport.OnlyRegisters calm) (h : x.Vetted calm) {events : List (Event ω)}
    (hevents : ∀ e ∈ events, e.OnlyRegisters calm) : (x.run events).Vetted calm := by
  induction events generalizing x with
  | nil => exact h
  | cons e events ih =>
    obtain ⟨he, hrest⟩ := List.forall_mem_cons.mp hevents
    exact ih (h.step hcalm e he) hrest

end Vetted

/-- **Registrations are all or nothing, and keep the registry valid.** A registration is refused
just when the ids differ or the buyer or a template is not in order, and then nothing has changed;
else the buyer is registered, all others are as before, and the answer says whether the id is new.
Hence, when an exchange without buyers has run and others have done no more to the registry than to
have buyers registered, every buyer is registered under its own id and in order, and all its
payloads come out as if nobody looked at buyer and template again. -/
theorem registrations_vetted [Transport ω] (x : Exchange ω) :
    (∀ buyerId buyer,
      ((∃ p, (x.upsertBuyer buyerId buyer).1 = .error p) ↔
        buyer.id ≠ buyerId ∨ ¬buyer.Valid) ∧
      (∀ p, (x.upsertBuyer buyerId buyer).1 = .error p → (x.upsertBuyer buyerId buyer).2 = x) ∧
      ∀ registered, (x.upsertBuyer buyerId buyer).1 = .ok registered →
        (x.upsertBuyer buyerId buyer).2.registry.get? buyerId = some buyer ∧
        (∀ id, id ≠ buyerId →
          (x.upsertBuyer buyerId buyer).2.registry.get? id = x.registry.get? id) ∧
        (registered.code = 201 ↔ x.registry.get? buyerId = none)) ∧
    ∀ calm : ω → Prop, Transport.OnlyRegisters calm → calm x.world → x.registry = .empty →
      ∀ events, (∀ e ∈ events, e.OnlyRegisters calm) →
        ∀ id buyer, (x.run events).registry.get? id = some buyer →
          buyer.id = id ∧ buyer.Valid ∧
          ∀ e : Engine, ∀ service ∈ buyer.services, ∀ lead now,
            e.pingPayload lead buyer service now = e.payloadOnTrust lead buyer
              service.pingTemplate buyer.settings.complianceInPing now ∧
            e.postPayload lead buyer service now = e.payloadOnTrust lead buyer
              service.postTemplate true now := by
  constructor
  · intro buyerId buyer
    rcases x.upsertBuyer_refused_or_valid buyerId buyer with ⟨hwrong, p, heq⟩ | ⟨rfl, hvalid, heq⟩
    · rw [heq]
      exact ⟨iff_of_true ⟨p, rfl⟩ hwrong, fun _ _ => rfl, nofun⟩
    · rw [heq]
      refine ⟨iff_of_false nofun (by simp [hvalid]), nofun, ?_⟩
      rintro registered ⟨⟩
      exact ⟨x.registry.get?_upsert_self buyer, fun id hid => Registry.get?_upsert_of_ne hid _,
        code_eq_created_iff x.registry buyer.id⟩
  · intro calm hcalm hworld hempty events hevents id buyer hget
    have hstart : x.Vetted calm := ⟨hworld, hempty ▸ Registry.valid_empty⟩
    have hvalid := (hstart.run hcalm hevents).registry id buyer hget
    refine ⟨Registry.id_of_get? hget, hvalid, ?_⟩
    intro e service hservice lead now
    obtain ⟨hping, hpost⟩ := hvalid.templates service hservice
    exact ⟨e.payload_eq_onTrust lead _ now hvalid.itself hping,
      e.payload_eq_onTrust lead _ now hvalid.itself hpost⟩

end Exchange

/-- Worlds that answer from scripts leave the registry alone as long as no answer comes with an act
of others. -/
theorem ScriptedWorld.onlyRegisters : Transport.OnlyRegisters ScriptedWorld.Calm where
  send r h := h.send r
  effect r h registry world hworld := by
    rw [send_effect h]
    exact ⟨⟨[], List.forall_mem_nil _, rfl⟩, hworld⟩
  reset _ h := h
  meanwhile _ _ hworld := ⟨⟨[], List.forall_mem_nil _, rfl⟩, hworld⟩

namespace Sample

/-- A market without buyers. -/
def vacancy : Exchange ScriptedWorld := .fresh .standard .empty [] (.ofScripts [])

theorem vacancy_calm : vacancy.world.Calm := by
  intro id kind a ha
  cases kind <;> cases ha

theorem buyer_valid : (buyer .standard).Valid := by
  have hok : (buyer .standard).checkAll.isOk = true := by decide
  obtain ⟨⟨⟩, hall⟩ := exists_of_isOk hok
  exact Buyer.checkAll_eq_ok_iff.mp hall

end Sample

open Sample in
/-- The buyer is registered under its own id, and cannot be registered under another one. -/
theorem Exchange.registrations_vetted_sample :
    Transport.OnlyRegisters ScriptedWorld.Calm ∧ vacancy.world.Calm ∧
      vacancy.registry = .empty ∧
      (vacancy.upsertBuyer "beta" (buyer .standard)).2 = vacancy ∧
      (vacancy.upsertBuyer "alpha" (buyer .standard)).1 = .ok .created ∧
      (vacancy.run [.upsert "alpha" (buyer .standard)]).registry.get? "alpha" =
        some (buyer .standard) ∧
      Engine.standard.postPayload lead (buyer .standard) (service .standard) ⟨5, 0⟩ =
        Engine.standard.payloadOnTrust lead (buyer .standard) ⟨[], [], none⟩ true ⟨5, 0⟩ := by
  obtain ⟨honce, hrun⟩ := registrations_vetted vacancy
  obtain ⟨hrefused, hunchanged, -⟩ := honce "beta" (buyer .standard)
  obtain ⟨p, hp⟩ := hrefused.mpr (.inl (by decide))
  have hcreated : (vacancy.upsertBuyer "alpha" (buyer .standard)).1 = .ok .created := by
    rcases vacancy.upsertBuyer_refused_or_valid "alpha" (buyer .standard) with
      ⟨hid | hinvalid, -⟩ | ⟨-, -, heq⟩
    · exact (hid rfl).elim
    · exact (hinvalid buyer_valid).elim
    · rw [heq]
      rfl
  obtain ⟨-, -, haccepted⟩ := honce "alpha" (buyer .standard)
  have hget := (haccepted _ hcreated).1
  have hevents : ∀ e ∈ [Event.upsert "alpha" (buyer .standard)],
      e.OnlyRegisters ScriptedWorld.Calm := by
    intro e he
    cases List.mem_singleton.mp he
    trivial
  obtain ⟨-, -, hpayload⟩ := hrun ScriptedWorld.Calm ScriptedWorld.onlyRegisters vacancy_calm rfl _
    hevents "alpha" _ hget
  exact ⟨ScriptedWorld.onlyRegisters, vacancy_calm, rfl, hunchanged p hp, hcreated, hget,
    (hpayload .standard (service .standard) List.mem_cons_self lead ⟨5, 0⟩).2⟩

end PingPost
