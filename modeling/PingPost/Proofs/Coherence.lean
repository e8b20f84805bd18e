import PingPost.Proofs.LastingProperties
import PingPost.Proofs.Sample

/-!
In which vocabulary a buyer is understood.

The vocabulary of a buyer is looked up when the first answer is read, also for a buyer who is not
registered yet, and then remembered. A registration is the only request that changes what the
registry says of it, and makes the exchange forget it. So what is remembered is what the registry
says (`Exchange.Attuned`), as long as nobody changes the vocabularies behind the exchange's back
(`Transport.LeavesVocabularies`): every answer is read in the vocabulary that was last accepted for
the buyer (`Exchange.run_coherent`).
-/

namespace PingPost

/-- The vocabulary of a buyer that may have one of its own. -/
def Vocabulary.inForce : Option Vocabulary → Vocabulary
  | some own => own.laidOn .standard
  | none => .standard

/-- A buyer's own vocabulary by the registry. -/
def Registry.vocabulary? (r : Registry) (buyerId : String) : Option Vocabulary :=
  (r.get? buyerId).bind (·.vocabulary)

variable {ω : Type}

/-- Whether an act of others leaves all vocabularies in the registry as they are, and a calm world
calm. -/
def LeavesVocabularies (calm : ω → Prop) (act : Registry → ω → Registry × ω) : Prop :=
  ∀ registry world, calm world →
    (∀ id, (act registry world).1.vocabulary? id = registry.vocabulary? id) ∧
      calm (act registry world).2

/-- Whether in calm worlds nothing but a registration changes the vocabularies in the registry. -/
structure Transport.LeavesVocabularies [Transport ω] (calm : ω → Prop) : Prop where
  send : ∀ {world : ω} (r : Request), calm world → calm (Transport.send world r).2
  effect : ∀ {world : ω} (r : Request), calm world →
    PingPost.LeavesVocabularies calm (Transport.send world r).1.effect
  reset : ∀ {world : ω} (buyerId : String), calm world → calm (Transport.reset world buyerId)
  meanwhile : PingPost.LeavesVocabularies calm (Transport.meanwhile : Registry → ω → Registry × ω)

/-- Whether the acts of others, if the event is one, leave all vocabularies as they are. -/
def Event.LeavesVocabularies (calm : ω → Prop) : Event ω → Prop
  | .others act => PingPost.LeavesVocabularies calm act
  | _ => True

/-- The vocabularies after an event: a registration that is accepted replaces that of its buyer. -/
def Event.revise (own : String → Option Vocabulary) : Event ω → String → Option Vocabulary
  | .upsert buyerId buyer, id =>
    if id = buyerId ∧ buyer.id = buyerId ∧ buyer.checkAll.isOk then buyer.vocabulary else own id
  | _, id => own id

theorem Event.revise_of_refused {own : String → Option Vocabulary} {buyerId : String}
    {buyer : Buyer} (h : ¬(buyer.id = buyerId ∧ buyer.checkAll.isOk = true)) :
    (upsert buyerId buyer : Event ω).revise own = own := by
  funext id
  simp only [revise, h, and_false, if_false]

/-- The vocabularies that were last accepted. -/
def lastAccepted (own : String → Option Vocabulary) (events : List (Event ω)) :
    String → Option Vocabulary :=
  events.foldl Event.revise own

namespace Exchange

/-- Whether some vocabularies are those of the registry, and remembered where any are. -/
structure Attuned (calm : ω → Prop) (own : String → Option Vocabulary) (x : Exchange ω) : Prop where
  world : calm x.world
  registry : ∀ id, x.registry.vocabulary? id = own id
  remembered : ∀ id w, x.vocabularies.get? id = some w → w = Vocabulary.inForce (own id)

variable {calm : ω → Prop} {own : String → Option Vocabulary} {x y : Exchange ω}

theorem currentVocabulary_eq (x : Exchange ω) (buyerId : String) :
    x.currentVocabulary buyerId = Vocabulary.inForce (x.registry.vocabulary? buyerId) := by
  unfold currentVocabulary Registry.vocabulary?
  cases (x.registry.get? buyerId).bind (·.vocabulary) <;> rfl

namespace Attuned

theorem congr (h : x.Attuned calm own) (hframe : x.SameSurroundings y)
    (hvocabularies : y.vocabularies = x.vocabularies) : y.Attuned calm own where
  world := hframe.world ▸ h.world
  registry := hframe.registry ▸ h.registry
  remembered := hvocabularies ▸ h.remembered

/-! ### Reading answers -/

theorem vocabulary_eq (h : x.Attuned calm own) (buyerId : String) :
    (x.vocabulary buyerId).1 = Vocabulary.inForce (own buyerId) := by
  unfold Exchange.vocabulary
  split
  · rename_i w hw
    exact h.remembered buyerId w hw
  · rw [currentVocabulary_eq, h.registry]

/-- What is looked up is what the registry says. -/
theorem vocabulary (h : x.Attuned calm own) (buyerId : String) :
    (x.vocabulary buyerId).2.Attuned calm own := by
  unfold Exchange.vocabulary
  split
  · exact h
  · refine ⟨h.world, h.registry, fun id w hw => ?_⟩
    by_cases hid : id = buyerId
    · rw [hid, Table.get?_put_self] at hw
      cases hw
      rw [hid, currentVocabulary_eq, h.registry]
    · rw [Table.get?_put_of_ne hid] at hw
      exact h.remembered id w hw

/-! ### Acts of others -/

theorem act (h : x.Attuned calm own) {act : Registry → ω → Registry × ω}
    (hact : LeavesVocabularies calm act) (hworld : y.world = (act x.registry x.world).2)
    (hregistry : y.registry = (act x.registry x.world).1)
    (hvocabularies : y.vocabularies = x.vocabularies) : y.Attuned calm own := by
  obtain ⟨hsame, hcalm⟩ := hact x.registry x.world h.world
  exact ⟨hworld ▸ hcalm, fun id => hregistry ▸ (hsame id).trans (h.registry id),
    hvocabularies ▸ h.remembered⟩

variable [Transport ω]

theorem launch (hcalm : Transport.LeavesVocabularies calm) (h : x.Attuned calm own) (r : Request) :
    LeavesVocabularies calm (x.launch r).1.effect ∧ (x.launch r).2.Attuned calm own :=
  ⟨hcalm.effect r h.world, hcalm.send r h.world, h.registry, h.remembered⟩

theorem lasting (hcalm : Transport.LeavesVocabularies calm) :
    Lasting (LeavesVocabularies calm) (fun _ => True) (Attuned calm own) where
  congr h hsame := h.congr hsame.toSameSurroundings hsame.vocabularies
  vocabulary buyerId h := h.vocabulary buyerId
  registered _ _ := trivial
  payload _ _ _ h _ _ := h.congr (payload_surroundings ..) (payload_vocabularies ..)
  launch r h := h.launch hcalm r
  act hact h := h.act hact rfl rfl rfl
  meanwhile := hcalm.meanwhile

/-! ### Runs -/

/-- A registration replaces what the registry says of its buyer, and nothing is remembered of that
buyer afterwards; a registration that is refused changes nothing. -/
theorem upsertBuyer (hcalm : Transport.LeavesVocabularies calm) (h : x.Attuned calm own)
    (buyerId : String) (buyer : Buyer) :
    (x.upsertBuyer buyerId buyer).2.Attuned calm
      ((Event.upsert buyerId buyer : Event ω).revise own) := by
  rcases x.upsertBuyer_cases buyerId buyer with ⟨hid, heq⟩ | ⟨e, he, heq⟩ | ⟨rfl, hall, heq⟩
  · rw [heq, Event.revise_of_refused fun haccepted => hid haccepted.1]
    exact h
  · rw [heq, Event.revise_of_refused fun haccepted => by
      simp [he, Except.isOk, Except.toBool] at haccepted]
    exact h
  have haccepted : buyer.checkAll.isOk = true := by rw [hall]; rfl
  rw [heq]
  refine ⟨hcalm.reset _ h.world, fun id => ?_, fun id w hw => ?_⟩
  · have hregistry : ((x.registry.upsert buyer).vocabulary? id) =
        if id = buyer.id then buyer.vocabulary else x.registry.vocabulary? id := by
      unfold Registry.vocabulary?
      split
      · rename_i heq
        rw [heq, Registry.get?_upsert_self, Option.bind_some]
      · rw [Registry.get?_upsert_of_ne ‹_›]
    simp only [Event.revise, haccepted, and_true]
    exact hregistry.trans (by rw [h.registry])
  · have hid : id ≠ buyer.id := by
      rintro rfl
      exact Option.some_ne_none w (hw.symm.trans (Table.get?_erase_self ..))
    have hw' : x.vocabularies.get? id = some w := (Table.get?_erase_of_ne hid _).symm.trans hw
    simpa [Event.revise, hid] using h.remembered id w hw'

theorem step (hcalm : Transport.LeavesVocabularies calm) (h : x.Attuned calm own) (e : Event ω)
    (he : e.LeavesVocabularies calm) : (x.step e).Attuned calm (e.revise own) := by
  cases e with
  | upsert buyerId buyer => exact h.upsertBuyer hcalm buyerId buyer
  | others act => exact (lasting hcalm).step h (.others act) he
  | auction | request | sweep | sweepItem | webhook | preview =>
    exact (lasting hcalm).step h _ trivial

theorem run (hcalm : Transport.LeavesVocabularies calm) (h : x.Attuned calm own)
    {events : List (Event ω)} (hevents : ∀ e ∈ events, e.LeavesVocabularies calm) :
    (x.run events).Attuned calm (lastAccepted own events) := by
  induction events generalizing x own with
  | nil => exact h
  | cons e events ih =>
    obtain ⟨he, hrest⟩ := List.forall_mem_cons.mp hevents
    exact ih (h.step hcalm e he) hrest

end Attuned

/-- **Every answer is read in the vocabulary last accepted for the buyer.** After any run of an
exchange that remembers no vocabulary at first, in which nobody changes the vocabularies in the
registry by other means than a registration, the vocabulary in which an answer of a buyer would be
read is that of the registry, and the one last accepted, laid over the common one; the common one
for a buyer who is unknown or has none. -/
theorem run_coherent [Transport ω] {calm : ω → Prop} (hcalm : Transport.LeavesVocabularies calm)
    (x : Exchange ω) (hworld : calm x.world) (hempty : x.vocabularies = [])
    (events : List (Event ω)) (hevents : ∀ e ∈ events, e.LeavesVocabularies calm)
    (buyerId : String) :
    ((x.run events).vocabulary buyerId).1 =
        Vocabulary.inForce ((x.run events).registry.vocabulary? buyerId) ∧
      ((x.run events).vocabulary buyerId).1 =
        Vocabulary.inForce (lastAccepted x.registry.vocabulary? events buyerId) ∧
      ∀ code body,
        ((x.run events).readPing buyerId code body).1 =
            (Vocabulary.inForce (lastAccepted x.registry.vocabulary? events buyerId)).readPing code
              body ∧
          ((x.run events).readPost buyerId code body).1 =
            (Vocabulary.inForce (lastAccepted x.registry.vocabulary? events buyerId)).readPost code
              body := by
  have hstart : x.Attuned calm x.registry.vocabulary? :=
    ⟨hworld, fun _ => rfl, fun id w hw => by simp [hempty] at hw⟩
  have hrun := hstart.run hcalm hevents
  have hvocabulary := hrun.vocabulary_eq buyerId
  refine ⟨by rw [hvocabulary, hrun.registry], hvocabulary, fun code body => ?_⟩
  simp only [readPing, readPost, hvocabulary, and_self]

end Exchange

/-- Worlds that answer from scripts leave the registry alone as long as no answer comes with an act
of others. -/
theorem ScriptedWorld.leavesVocabularies : Transport.LeavesVocabularies ScriptedWorld.Calm where
  send r h := h.send r
  effect r h registry world hworld := by
    rw [send_effect h]
    exact ⟨fun _ => rfl, hworld⟩
  reset _ h := h
  meanwhile _ _ hworld := ⟨fun _ => rfl, hworld⟩

namespace Sample

/-- A vocabulary with a word of its own for a bid. -/
def dialect : Vocabulary := { Vocabulary.standard with accepted := ["yep"] }

/-- The buyer with the vocabulary. -/
def dialectal : Buyer := { buyer .standard with vocabulary := some dialect }

/-- The lead is auctioned before and after the buyer changes its vocabulary. -/
def changeOfWords : List (Event ScriptedWorld) := [
  .auction lead ⟨5, 0⟩, .upsert "alpha" dialectal, .auction lead ⟨6, 0⟩]

theorem dialectal_accepted :
    dialectal.id = "alpha" ∧ dialectal.checkAll.isOk = true ∧
      dialectal.vocabulary = some dialect :=
  ⟨rfl, by decide, rfl⟩

theorem exchange_calm (policy : RetryPolicy) : (exchange policy).world.Calm := by
  have hanswer (code : Nat) (body : String) : (answer code body).Calm := ⟨rfl, rfl, rfl, rfl⟩
  intro id kind a ha
  simp only [exchange, Exchange.fresh, ScriptedWorld.ofScripts, ScriptedWorld.answers,
    Table.get?_cons] at ha
  split at ha <;> cases kind with
  | ping => first | exact List.mem_singleton.mp ha ▸ hanswer _ _ | cases ha
  | post => first | exact List.mem_singleton.mp ha ▸ hanswer _ _ | cases ha

end Sample

open Sample in
theorem Exchange.run_coherent_sample :
    (exchange .standard).world.Calm ∧ (exchange .standard).vocabularies = [] ∧
      (∀ e ∈ changeOfWords, e.LeavesVocabularies ScriptedWorld.Calm) ∧
      (((exchange .standard).run changeOfWords).vocabulary "alpha").1 =
        dialect.laidOn .standard := by
  have hevents : ∀ e ∈ changeOfWords, e.LeavesVocabularies ScriptedWorld.Calm := by
    simp [changeOfWords, Event.LeavesVocabularies]
  have hcoherent := run_coherent ScriptedWorld.leavesVocabularies (exchange .standard)
    (exchange_calm _) rfl changeOfWords hevents "alpha"
  obtain ⟨hid, haccepted, hvocabulary⟩ := dialectal_accepted
  refine ⟨exchange_calm _, rfl, hevents, ?_⟩
  rw [hcoherent.2.1]
  simp [lastAccepted, changeOfWords, Event.revise, hid, haccepted, hvocabulary,
    Vocabulary.inForce]

end PingPost
