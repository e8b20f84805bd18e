import PingPost.Proofs.BuyerSeparation
import PingPost.Proofs.Orders
import PingPost.Proofs.Sample

/-!
Buyers do not influence each other's bids.

Two exchanges are compared that may differ in all that concerns one buyer, the odd one: in its
registration, its hook, its vocabulary, and in how its world treats it (`Exchange.Alike`). Their
worlds keep buyers apart (`Accord`): a call to a buyer has the same outcome where the worlds are
alike for that buyer, and leaves them alike for all others. Then all others bid the same in the same
order, and are ranked in the same order (`Exchange.runAuction_isolated`).

The PINGs of an auction overlap, and in which order they are sent and taken in may depend on the odd
buyer. So the two runs are not followed side by side: what comes of a PING in the one is what would
come of it in the other if nobody else was asked (`Exchange.askAlone`).
-/

namespace PingPost

variable {ω₁ ω₂ : Type}

/-! ### Exchanges that are alike for a buyer -/

namespace Exchange

/-- Whether two exchanges agree on all that concerns a buyer. -/
structure Alike (like : String → ω₁ → ω₂ → Prop) (buyerId : String) (x₁ : Exchange ω₁)
    (x₂ : Exchange ω₂) : Prop where
  catalogue : x₁.engine.catalogue = x₂.engine.catalogue
  limit : x₁.engine.limit = x₂.engine.limit
  hook : x₁.engine.hooks.get? buyerId = x₂.engine.hooks.get? buyerId
  registered : x₁.registry.get? buyerId = x₂.registry.get? buyerId
  vocabulary : x₁.vocabularies.get? buyerId = x₂.vocabularies.get? buyerId
  world : like buyerId x₁.world x₂.world

variable {like : String → ω₁ → ω₂ → Prop} {odd buyerId : String} {x₁ : Exchange ω₁}
  {x₂ : Exchange ω₂}

theorem Alike.symm (h : Alike like buyerId x₁ x₂) :
    Alike (fun buyerId w₂ w₁ => like buyerId w₁ w₂) buyerId x₂ x₁ :=
  ⟨h.catalogue.symm, h.limit.symm, h.hook.symm, h.registered.symm, h.vocabulary.symm, h.world⟩

/-- Counters and books concern no buyer. -/
theorem Alike.of_eq {y : Exchange ω₁} (h : Alike like buyerId x₁ x₂)
    (hengine : y.engine = x₁.engine) (hregistry : y.registry = x₁.registry)
    (hvocabularies : y.vocabularies = x₁.vocabularies) (hworld : y.world = x₁.world) :
    Alike like buyerId y x₂ := by
  refine ⟨?_, ?_, ?_, ?_, ?_, ?_⟩
  · rw [hengine, h.catalogue]
  · rw [hengine, h.limit]
  · rw [hengine, h.hook]
  · rw [hregistry, h.registered]
  · rw [hvocabularies, h.vocabulary]
  · rw [hworld]
    exact h.world

theorem Alike.pingPayload {buyer : Buyer} (h : Alike like buyer.id x₁ x₂) (lead : Lead)
    (service : Service) (now : Instant) :
    x₁.engine.pingPayload lead buyer service now =
      x₂.engine.pingPayload lead buyer service now := by
  simp only [Engine.pingPayload, Engine.payload, Engine.assemble, Engine.before, Engine.after,
    Engine.finish, h.catalogue, h.limit, h.hook]

/-- In which vocabulary an answer is read depends on what concerns the buyer only. -/
theorem vocabulary_eq (hregistered : x₁.registry.get? buyerId = x₂.registry.get? buyerId)
    (hvocabulary : x₁.vocabularies.get? buyerId = x₂.vocabularies.get? buyerId) :
    (x₁.vocabulary buyerId).1 = (x₂.vocabulary buyerId).1 := by
  unfold vocabulary currentVocabulary
  rw [hvocabulary, hregistered]
  split <;> rfl

/-- Looking up the vocabulary of another buyer changes nothing for a buyer. -/
theorem Alike.vocabulary_other (h : Alike like buyerId x₁ x₂) {other : String}
    (hne : other ≠ buyerId) : Alike like buyerId (x₁.vocabulary other).2 x₂ := by
  unfold Exchange.vocabulary
  split
  · exact h
  · refine ⟨h.catalogue, h.limit, h.hook, h.registered, ?_, h.world⟩
    rw [← h.vocabulary]
    exact Table.get?_put_of_ne hne.symm _ _

theorem Alike.arrive_other (h : Alike like buyerId x₁ x₂) {flight : Flight ω₁}
    (hspares : flight.Spares (like buyerId) buyerId) :
    Alike like buyerId (x₁.arrive flight) x₂ :=
  ⟨h.catalogue, h.limit, h.hook, (hspares.registry _ _).trans h.registered, h.vocabulary,
    hspares.world _ _ _ h.world⟩

/-- Taking in a PING of another buyer changes nothing for a buyer. -/
theorem Alike.settle_other (h : Alike like buyerId x₁ x₂) {f : Flying ω₁}
    (hne : f.participant.buyer.id ≠ buyerId)
    (hspares : f.flight.Spares (like buyerId) buyerId) (facts : Json) :
    Alike like buyerId (Board.settle x₁ facts f).2 x₂ := by
  have harrive := h.arrive_other hspares
  unfold Board.settle
  dsimp only
  split
  · exact h
  split
  · exact harrive
  · exact harrive.vocabulary_other hne

/-- What comes of a PING that is taken in depends on what concerns the buyer only. -/
theorem Alike.settle {p : Participant} {flight₁ : Flight ω₁} {flight₂ : Flight ω₂}
    (h : Alike like p.buyer.id x₁ x₂)
    (hflight : flight₁.Like (like p.buyer.id) p.buyer.id flight₂) (facts : Json)
    (i₁ i₂ t₁ t₂ : Nat) : (Board.settle x₁ facts ⟨i₁, p, flight₁, t₁⟩).1 =
      (Board.settle x₂ facts ⟨i₂, p, flight₂, t₂⟩).1 := by
  have hvocabulary : ((x₁.arrive flight₁).vocabulary p.buyer.id).1 =
      ((x₂.arrive flight₂).vocabulary p.buyer.id).1 :=
    vocabulary_eq (hflight.effect _ _ _ _ h.registered h.world) h.vocabulary
  by_cases hlate : p.service.endpoints.pingTimeoutMs < flight₂.delayMs
  · simp only [Board.settle, Flying.isLate, hflight.delayMs, hflight.measuredMs, hlate,
      decide_true, if_true]
  · simp only [Board.settle, Flying.isLate, hflight.delayMs, hflight.measuredMs, hflight.outcome,
      hlate, decide_false, Bool.false_eq_true, if_false]
    rcases flight₂.outcome with e | reply
    · rfl
    · simp only [readPing, hvocabulary]

variable [Transport ω₁]

/-- A call to another buyer changes nothing for a buyer. -/
theorem Alike.launch_other (hseparates : Separates like odd) (hodd : buyerId ≠ odd)
    (h : Alike like buyerId x₁ x₂) {r : Request} (hne : r.buyerId ≠ buyerId) :
    Alike like buyerId (x₁.launch r).2 x₂ :=
  ⟨h.catalogue, h.limit, h.hook, h.registered, h.vocabulary, hseparates.send hodd hne h.world⟩

theorem Alike.launch [Transport ω₂] (haccord : Accord like odd) {r : Request}
    (hodd : r.buyerId ≠ odd) (h : Alike like r.buyerId x₁ x₂) :
    Alike like r.buyerId (x₁.launch r).2 (x₂.launch r).2 :=
  ⟨h.catalogue, h.limit, h.hook, h.registered, h.vocabulary, haccord.send hodd h.world⟩

/-- What would come of a participant's PING if nobody else was asked. -/
def askAlone (x : Exchange ω₁) (lead : Lead) (now : Instant) (p : Participant) : PingResult :=
  match x.engine.pingPayload lead p.buyer p.service now with
  | .error e => p.unasked e
  | .ok body =>
    let (flight, y) := x.launch (request .ping p.buyer p.service body)
    (Board.settle y (.object (lead.facts now)) ⟨0, p, flight, 0⟩).1

theorem askAlone_of_ok {x : Exchange ω₁} {lead : Lead} {now : Instant} {p : Participant}
    {body : Fields} (h : x.engine.pingPayload lead p.buyer p.service now = .ok body) :
    x.askAlone lead now p =
      (Board.settle (x.launch (request .ping p.buyer p.service body)).2
        (.object (lead.facts now))
        ⟨0, p, (x.launch (request .ping p.buyer p.service body)).1, 0⟩).1 := by
  simp only [askAlone, h]

variable [Transport ω₂]

theorem Alike.askAlone (haccord : Accord like odd) {p : Participant} (hodd : p.buyer.id ≠ odd)
    (h : Alike like p.buyer.id x₁ x₂) (lead : Lead) (now : Instant) :
    x₁.askAlone lead now p = x₂.askAlone lead now p := by
  have hpayload := h.pingPayload lead p.service now
  rcases hbody : x₁.engine.pingPayload lead p.buyer p.service now with e | body
  · simp only [Exchange.askAlone, ← hpayload, hbody]
  · rw [askAlone_of_ok hbody, askAlone_of_ok (hpayload.symm.trans hbody)]
    let r := request .ping p.buyer p.service body
    have hlaunch : Alike like r.buyerId (x₁.launch r).2 (x₂.launch r).2 := h.launch haccord hodd
    have hflight : (x₁.launch r).1.Like (like r.buyerId) r.buyerId (x₂.launch r).1 :=
      haccord.flight hodd h.world
    exact Alike.settle hlaunch hflight _ 0 0 0 0

end Exchange

/-! ### One run beside another exchange -/

namespace Board

variable {ω : Type}

/-- The PINGs that are not done yet, by their indices. -/
def pending (b : Board ω) : List (Nat × Participant) :=
  b.waiting.map (fun w => (w.index, w.participant)) ++
    b.flying.map fun f => (f.index, f.participant)

theorem mem_pending_of_waiting {b : Board ω} {w : Waiting} (h : w ∈ b.waiting) :
    (w.index, w.participant) ∈ b.pending :=
  List.mem_append_left _ (List.mem_map_of_mem h)

theorem mem_pending_of_flying {b : Board ω} {f : Flying ω} (h : f ∈ b.flying) :
    (f.index, f.participant) ∈ b.pending :=
  List.mem_append_right _ (List.mem_map_of_mem h)

/-- The PINGs that are not done yet are of different buyers. -/
theorem Tracks.pending_ids_nodup {R : Participant → PingResult → Prop} {ps : List Participant}
    {indices : List Nat} {b : Board ω} (h : b.Tracks R ps indices) (hindices : indices.Nodup)
    (hps : (ps.map (·.buyer.id)).Nodup) : (b.pending.map (·.2.buyer.id)).Nodup := by
  have hplaced : ∀ e ∈ b.pending, ps[e.1]? = some e.2 := by
    intro e he
    rcases List.mem_append.mp he with he | he
    · obtain ⟨w, hw, rfl⟩ := List.mem_map.mp he
      exact h.waiting w hw
    · obtain ⟨f, hf, rfl⟩ := List.mem_map.mp he
      exact h.flying f hf
  have hfirst : (b.pending.map (·.1)).Nodup := by
    have hplaces := h.places.nodup_iff.mpr hindices
    rw [Board.places, ← List.append_assoc] at hplaces
    simpa [pending, Function.comp_def] using hplaces.of_append_left
  refine List.pairwise_map.mpr ((List.pairwise_map.mp hfirst).imp_of_mem ?_)
  intro a b ha hb hne hid
  -- Two participants of one id stand at the same place.
  have hlt : a.1 < (ps.map (·.buyer.id)).length := by
    rw [List.length_map]
    exact (List.getElem?_eq_some_iff.mp (hplaced a ha)).1
  refine hne ((List.getElem?_inj hlt hps).mp ?_)
  rw [List.getElem?_map, List.getElem?_map, hplaced a ha, hplaced b hb, Option.map_some, hid]
  rfl

/-- A PING that is not done yet is the only one of its buyer. -/
theorem ids_ne_of_perm {pending others : List (Nat × Participant)} {e : Nat × Participant}
    (hperm : pending.Perm (e :: others)) (hids : (pending.map (·.2.buyer.id)).Nodup) :
    ∀ d ∈ others, e.2.buyer.id ≠ d.2.buyer.id := by
  intro d hd heq
  have hcons := (hperm.map (·.2.buyer.id)).nodup_iff.mp hids
  rw [List.map_cons, List.nodup_cons] at hcons
  exact hcons.1 (heq ▸ List.mem_map_of_mem hd)

end Board

namespace Exchange

variable {like : String → ω₁ → ω₂ → Prop} {odd : String} [Transport ω₁] [Transport ω₂]

/-- What is known of the PINGs of all buyers but the odd one, compared with another exchange. -/
structure Beside (like : String → ω₁ → ω₂ → Prop) (odd : String) (x₂ : Exchange ω₂) (lead : Lead)
    (now : Instant) (ps : List Participant) (b : Board ω₁) : Prop where
  waiting : ∀ w ∈ b.waiting, w.participant.buyer.id ≠ odd →
    Alike like w.participant.buyer.id b.exchange x₂ ∧
      x₂.engine.pingPayload lead w.participant.buyer w.participant.service now = .ok w.body
  flying : ∀ f ∈ b.flying, f.participant.buyer.id ≠ odd →
    ∃ body, x₂.engine.pingPayload lead f.participant.buyer f.participant.service now = .ok body ∧
      Alike like f.participant.buyer.id b.exchange
        (x₂.launch (request .ping f.participant.buyer f.participant.service body)).2 ∧
      f.flight.Like (like f.participant.buyer.id) f.participant.buyer.id
        (x₂.launch (request .ping f.participant.buyer f.participant.service body)).1
  spares : ∀ f ∈ b.flying, ∀ e ∈ b.pending, e.2.buyer.id ≠ odd →
    f.participant.buyer.id ≠ e.2.buyer.id →
    f.flight.Spares (like e.2.buyer.id) e.2.buyer.id
  results : ∀ r ∈ b.results, ∃ p, ps[r.1]? = some p ∧
    (p.buyer.id ≠ odd → r.2 = x₂.askAlone lead now p)

variable {x₁ : Exchange ω₁} {x₂ : Exchange ω₂} {lead : Lead} {now : Instant}
  {ps : List Participant}

theorem beside_start (h : ∀ id, id ≠ odd → Alike like id x₁ x₂) :
    Beside like odd x₂ lead now ps (x₁.board lead ps now 0) := by
  have hstarted := x₁.board_started lead ps now
  obtain ⟨monitor, interrupted, hx⟩ := hstarted.exchange
  refine ⟨fun w hw hodd => ?_, ?_, ?_, fun r hr => ?_⟩
  · have halike := h _ hodd
    refine ⟨?_, (halike.pingPayload lead _ now).symm.trans (hstarted.waiting w hw).2⟩
    rw [hx]
    exact halike.of_eq rfl rfl rfl rfl
  · simp [hstarted.flying]
  · simp [hstarted.flying]
  · obtain ⟨p, e, hp, hr, hpay⟩ := hstarted.results r hr
    refine ⟨p, hp, fun hodd => hr.trans ?_⟩
    rw [askAlone, ← (h _ hodd).pingPayload, hpay]

omit [Transport ω₁] in
/-- For every buyer but the odd one whose PING is not done yet, the exchange is like another. -/
theorem Beside.alike {b : Board ω₁} (h : Beside like odd x₂ lead now ps b)
    {e : Nat × Participant} (he : e ∈ b.pending) (hodd : e.2.buyer.id ≠ odd) :
    ∃ y : Exchange ω₂, Alike like e.2.buyer.id b.exchange y := by
  rcases List.mem_append.mp he with he | he
  · obtain ⟨w, hw, rfl⟩ := List.mem_map.mp he
    exact ⟨x₂, (h.waiting w hw hodd).1⟩
  · obtain ⟨f, hf, rfl⟩ := List.mem_map.mp he
    obtain ⟨body, -, halike, -⟩ := h.flying f hf hodd
    exact ⟨_, halike⟩

theorem Beside.launch (haccord : Accord like odd) {b : Board ω₁} {w : Waiting}
    {rest : List Waiting} (h : Beside like odd x₂ lead now ps b) (hw : b.waiting = w :: rest)
    (hids : (b.pending.map (·.2.buyer.id)).Nodup) :
    Beside like odd x₂ lead now ps (b.launch w rest) := by
  let r := request .ping w.participant.buyer w.participant.service w.body
  -- The board without the PING that is sent.
  let c : Board ω₁ := { b with waiting := rest }
  have hrest : b.pending = (w.index, w.participant) :: c.pending := by
    simp only [Board.pending, hw, List.map_cons, List.cons_append, c]
  have hpending : (b.launch w rest).pending.Perm b.pending := by
    rw [hrest]
    simp only [Board.pending, Board.launch, List.map_append, List.map_cons, List.map_nil]
    rw [← List.append_assoc]
    exact List.perm_append_singleton _ _
  have hother := Board.ids_ne_of_perm (.of_eq hrest) hids
  refine ⟨fun v hv hodd => ?_, fun f hf hodd => ?_, fun f hf e he hodd hne => ?_, h.results⟩
  · obtain ⟨halike, hbody⟩ := h.waiting v (hw ▸ List.mem_cons_of_mem w hv) hodd
    have hne := hother _ (c.mem_pending_of_waiting hv)
    exact ⟨halike.launch_other haccord.first hodd hne, hbody⟩
  · rcases List.mem_append.mp hf with hf | hf
    · obtain ⟨body, hbody, halike, hflight⟩ := h.flying f hf hodd
      have hne := hother _ (c.mem_pending_of_flying hf)
      exact ⟨body, hbody, halike.launch_other haccord.first hodd hne, hflight⟩
    · cases List.mem_singleton.mp hf
      obtain ⟨halike, hbody⟩ := h.waiting w (hw ▸ List.mem_cons_self) hodd
      exact ⟨w.body, hbody, Alike.launch haccord (r := r) hodd halike,
        haccord.flight (r := r) hodd halike.world⟩
  · -- The new flight spares whoever is pending, since the exchange is like another for them.
    have he' := hpending.mem_iff.mp he
    rcases List.mem_append.mp hf with hf | hf
    · exact h.spares f hf e he' hodd hne
    · cases List.mem_singleton.mp hf
      obtain ⟨y, halike⟩ := h.alike he' hodd
      exact haccord.first.spares (r := r) hodd hne halike.world

omit [Transport ω₁] in
theorem Beside.land {b : Board ω₁} {f : Flying ω₁} {others : List (Flying ω₁)}
    (h : Beside like odd x₂ lead now ps b) (hf : b.flying.Perm (f :: others))
    (hplace : ps[f.index]? = some f.participant)
    (hids : (b.pending.map (·.2.buyer.id)).Nodup) :
    Beside like odd x₂ lead now ps (b.land (.object (lead.facts now)) f others) := by
  have hmem : f ∈ b.flying := hf.mem_iff.mpr List.mem_cons_self
  have hpending : b.pending.Perm ((f.index, f.participant) ::
      (b.land (.object (lead.facts now)) f others).pending) :=
    ((hf.map _).append_left _).trans List.perm_middle
  have hother := Board.ids_ne_of_perm hpending hids
  have hold {e : Nat × Participant}
      (he : e ∈ (b.land (.object (lead.facts now)) f others).pending) : e ∈ b.pending :=
    hpending.mem_iff.mpr (List.mem_cons_of_mem _ he)
  have hkeep {e : Nat × Participant} {y : Exchange ω₂}
      (he : e ∈ (b.land (.object (lead.facts now)) f others).pending) (hodd : e.2.buyer.id ≠ odd)
      (halike : Alike like e.2.buyer.id b.exchange y) :
      Alike like e.2.buyer.id (b.land (.object (lead.facts now)) f others).exchange y := by
    have hsettle := halike.settle_other (hother e he)
      (h.spares f hmem e (hold he) hodd (hother e he)) (.object (lead.facts now))
    exact hsettle.of_eq rfl rfl rfl rfl
  refine ⟨fun w hw hodd => ?_, fun g hg hodd => ?_, fun g hg e he hodd hne => ?_, fun r hr => ?_⟩
  · obtain ⟨halike, hbody⟩ := h.waiting w hw hodd
    exact ⟨hkeep (Board.mem_pending_of_waiting hw) hodd halike, hbody⟩
  · obtain ⟨body, hbody, halike, hflight⟩ := h.flying g (hf.mem_iff.mpr (.tail f hg)) hodd
    exact ⟨body, hbody, hkeep (Board.mem_pending_of_flying hg) hodd halike, hflight⟩
  · exact h.spares g (hf.mem_iff.mpr (.tail f hg)) e (hold he) hodd hne
  · rcases Table.mem_put hr with rfl | hr
    · refine ⟨f.participant, hplace, fun hodd => ?_⟩
      obtain ⟨body, hbody, halike, hflight⟩ := h.flying f hmem hodd
      rw [askAlone_of_ok hbody]
      exact Alike.settle halike hflight _ _ _ _ _
    · exact h.results r hr

theorem Beside.next (haccord : Accord like odd) (hps : (ps.map (·.buyer.id)).Nodup)
    {b b' : Board ω₁} (htracks : b.Tracks (fun _ _ => True) ps (List.range ps.length))
    (h : Beside like odd x₂ lead now ps b)
    (hn : b.next? (.object (lead.facts now)) = some b') : Beside like odd x₂ lead now ps b' := by
  have hids := htracks.pending_ids_nodup List.nodup_range hps
  rcases Board.next?_cases hn with ⟨w, rest, hw, rfl⟩ | ⟨f, others, hf, rfl⟩
  · exact h.launch haccord hw hids
  · exact h.land hf (htracks.flying f (hf.mem_iff.mpr List.mem_cons_self)) hids

/-- What comes of the PING of any buyer but the odd one is what would come of it in the other
exchange if nobody else was asked. -/
theorem pingAll_beside (haccord : Accord like odd) (h : ∀ id, id ≠ odd → Alike like id x₁ x₂)
    (hps : (ps.map (·.buyer.id)).Nodup) (lead : Lead) (now : Instant) :
    List.Forall₂ (fun p r => p.buyer.id ≠ odd → r = x₂.askAlone lead now p) ps
      (x₁.pingAll lead ps now).1 := by
  refine pingAll_forall₂_of_board fun n => ?_
  have hbeside : Beside like odd x₂ lead now ps (x₁.board lead ps now n) :=
    board_induction (beside_start h)
      (fun _ _ htracks hb hn => hb.next haccord hps htracks hn) n
  exact hbeside.results

/-! ### Two auctions -/

/-- Who is asked besides the odd buyer, and in which order. -/
theorem participants_filter_eq (haccord : Accord like odd)
    (h : ∀ id, id ≠ odd → Alike like id x₁ x₂) (lead : Lead) :
    (x₁.participants lead).filter (fun p => p.buyer.id ≠ odd) =
      (x₂.participants lead).filter (fun p => p.buyer.id ≠ odd) := by
  have hcomm {ω : Type} [Transport ω] (x : Exchange ω) :
      (x.participants lead).filter (fun p => p.buyer.id ≠ odd) =
        ((x.registry.eligible lead).filter fun b => b.id ≠ odd).filterMap fun b =>
          if x.isAvailable b.id then (b.serviceFor? lead).map fun s => ⟨b, s⟩ else none := by
    rw [participants, List.filter_filterMap, List.filterMap_filter]
    refine List.filterMap_congr fun b _ => ?_
    by_cases hodd : b.id = odd <;> by_cases havailable : x.isAvailable b.id = true <;>
      cases b.serviceFor? lead <;> simp [hodd, havailable]
  rw [hcomm, hcomm, Registry.eligible_filter_eq (fun id hid => (h id hid).registered) lead]
  refine List.filterMap_congr fun b hb => ?_
  have hodd : b.id ≠ odd := of_decide_eq_true (List.mem_filter.mp hb).2
  rw [isAvailable, isAvailable, haccord.isAvailable hodd (h b.id hodd).world]

/-- The bids besides that of the odd buyer are those the other exchange would get, asking each buyer
alone. -/
theorem bids_filter_eq (haccord : Accord like odd) (h : ∀ id, id ≠ odd → Alike like id x₁ x₂)
    (lead : Lead) (now : Instant) :
    ((x₁.pings lead now).1.map (·.bid)).filter (fun b => b.buyerId ≠ odd) =
      ((x₁.participants lead).filter fun p => p.buyer.id ≠ odd).map fun p =>
        (x₂.askAlone lead now p).bid := by
  have hcount : ∀ id, id ≠ odd → Alike like id x₁.countAuction x₂ := fun id hid =>
    (h id hid).of_eq rfl rfl rfl rfl
  have hbeside : List.Forall₂ (fun p r => p.buyer.id ≠ odd → r = x₂.askAlone lead now p)
      (x₁.participants lead) (x₁.pings lead now).1 :=
    pingAll_beside haccord hcount (x₁.participants_ids_nodup lead) lead now
  have hanswers := x₁.pings_answers lead now
  -- A bid is kept or left out with its participant.
  generalize x₁.participants lead = ps at hbeside hanswers
  generalize (x₁.pings lead now).1 = results at hbeside hanswers
  induction hanswers with
  | nil => rfl
  | @cons p r ps results hr _ ih =>
    obtain ⟨hp, hrest⟩ := List.forall₂_cons.mp hbeside
    rw [List.map_cons, List.filter_cons, List.filter_cons, hr.buyerId, ih hrest]
    by_cases hodd : p.buyer.id = odd
    · simp [hodd]
    · simp [hodd, hp hodd]

omit [Transport ω₂] in
theorem runAuction_bids_of_error {e : FieldError} (h : lead.check = .error e) :
    (x₁.runAuction lead now).1.bids = [] := by
  simp only [runAuction, h]
  rfl

omit [Transport ω₂] in
theorem sell_bids (x : Exchange ω₁) (lead : Lead) (id : AuctionId) (n : Nat)
    (bids ranked : List Bid) (now : Instant) :
    (x.sell lead id n bids ranked now).1.bids = bids := by
  rcases hcascade : x.cascade lead id now ranked with ⟨posts, _ | s, y⟩ <;>
    simp only [sell, hcascade]

omit [Transport ω₂] in
/-- The bids of an auction are those of its PINGs. -/
theorem runAuction_bids (h : lead.check = .ok ()) :
    (x₁.runAuction lead now).1.bids = (x₁.pings lead now).1.map (·.bid) := by
  have hparticipants : x₁.countAuction.participants lead = x₁.participants lead := rfl
  simp only [runAuction, h, pings, hparticipants]
  split
  · rename_i hnone
    simp only [hnone, pingAll, Board.start, List.length_nil, Board.run, List.map_nil]
    rfl
  · simp only [auctionAmong, noteAuction]
    split
    · rfl
    · exact sell_bids ..

/-- **Buyers do not influence each other's bids.** Two exchanges that agree on all that concerns
other buyers than the odd one, in worlds that keep buyers apart, get the same bids of these buyers
in the same order, and rank them in the same order. -/
theorem runAuction_isolated (haccord : Accord like odd)
    (h : ∀ id, id ≠ odd → Alike like id x₁ x₂) (lead : Lead) (now : Instant) :
    ((x₁.runAuction lead now).1.bids.filter fun b => b.buyerId ≠ odd) =
        ((x₂.runAuction lead now).1.bids.filter fun b => b.buyerId ≠ odd) ∧
      ((Bid.ranking (x₁.runAuction lead now).1.bids).filter fun b => b.buyerId ≠ odd) =
        ((Bid.ranking (x₂.runAuction lead now).1.bids).filter fun b => b.buyerId ≠ odd) := by
  rcases hcheck : lead.check with e | ⟨⟩
  · rw [runAuction_bids_of_error hcheck, runAuction_bids_of_error hcheck]
    exact ⟨rfl, rfl⟩
  rw [runAuction_bids hcheck, runAuction_bids hcheck]
  have hbids : ((x₁.pings lead now).1.map (·.bid)).filter (fun b => b.buyerId ≠ odd) =
      ((x₂.pings lead now).1.map (·.bid)).filter (fun b => b.buyerId ≠ odd) := by
    -- Each run is compared with the other exchange, and the two exchanges with one another.
    have hsymm : ∀ id, id ≠ odd → Alike (fun id w₂ w₁ => like id w₁ w₂) id x₂ x₁ :=
      fun id hid => (h id hid).symm
    rw [bids_filter_eq haccord h, bids_filter_eq haccord.symm hsymm,
      participants_filter_eq haccord h]
    refine List.map_congr_left fun p hp => ?_
    have hodd : p.buyer.id ≠ odd := of_decide_eq_true (List.mem_filter.mp hp).2
    rw [(h _ hodd).askAlone haccord hodd]
  refine ⟨hbids, Bid.ranking_filter_eq ?_ hbids⟩
  rw [Participant.answers_buyerIds (x₁.pings_answers lead now)]
  exact x₁.participants_ids_nodup lead

end Exchange

namespace Sample

/-- Markets that differ in the second buyer agree on all others. -/
theorem rivalry_alike {priority₁ priority₂ : Nat} {hook₁ hook₂ : Hook} {script₁ script₂ : Script}
    (h₁ : (rivalry priority₁ hook₁ script₁).world.Calm)
    (h₂ : (rivalry priority₂ hook₂ script₂).world.Calm) (id : String) (hid : id ≠ "beta") :
    Exchange.Alike ScriptedWorld.Like id (rivalry priority₁ hook₁ script₁)
      (rivalry priority₂ hook₂ script₂) where
  catalogue := rfl
  limit := rfl
  hook := (Table.get?_put_of_ne hid _ _).trans (Table.get?_put_of_ne hid _ _).symm
  registered := by
    have hother (priority : Nat) : id ≠ (rival priority).id := hid
    rw [rivalry, rivalry, Registry.get?_upsert_of_ne (hother _),
      Registry.get?_upsert_of_ne (hother _)]
  vocabulary := rfl
  world := ⟨(Table.get?_put_of_ne hid _ _).trans (Table.get?_put_of_ne hid _ _).symm, rfl, h₁, h₂⟩

theorem rivalry_calm (priority : Nat) (hook : Hook) (code : Nat) (body : String) :
    (rivalry priority hook ⟨[answer code body], []⟩).world.Calm := by
  have hanswer (code : Nat) (body : String) : (answer code body).Calm := ⟨rfl, rfl, rfl, rfl⟩
  intro id kind a ha
  simp only [rivalry, exchange, Exchange.fresh, ScriptedWorld.ofScripts,
    ScriptedWorld.answers] at ha
  by_cases hid : id = "beta"
  · rw [hid, Table.get?_put_self] at ha
    cases kind with
    | ping => exact List.mem_singleton.mp ha ▸ hanswer code body
    | post => cases ha
  · rw [Table.get?_put_of_ne hid, Table.get?_cons] at ha
    split at ha
    · cases kind with
      | ping => exact List.mem_singleton.mp ha ▸ hanswer _ _
      | post => exact List.mem_singleton.mp ha ▸ hanswer _ _
    · cases kind <;> cases ha

end Sample

end PingPost
