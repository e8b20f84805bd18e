import PingPost.Proofs.LastingProperties
import PingPost.Proofs.Payload
import PingPost.Proofs.Settlement

/-!
Sweeps in a steady world.

A world is steady if the answer to a call depends on nothing but the call, and others change neither
who is registered nor who may be called (`Transport.Steady`). Worlds that answer from scripts are
steady if no script has more than one answer and no answer comes with an act of others
(`ScriptedWorld.steady`). In a steady world all that decides over an item of the backlog stays as it
is (`Exchange.SameTerms`). So what a sweep does about an item is a change of the books that does not
depend on what the books say otherwise (`Exchange.decides`).
-/

namespace PingPost

variable {ω : Type}

/-! ### Steady worlds -/

/-- Whether an act of others leaves the registry as it is and a calm world calm. -/
def Idle (calm : ω → Prop) (act : Registry → ω → Registry × ω) : Prop :=
  ∀ registry world, calm world → (act registry world).1 = registry ∧ calm (act registry world).2

/-- Whether two calls have the same answer. -/
structure Flight.SameAnswer (f f' : Flight ω) : Prop where
  delayMs : f'.delayMs = f.delayMs
  measuredMs : f'.measuredMs = f.measuredMs
  outcome : f'.outcome = f.outcome

/-- Whether all calm worlds answer and are open alike, and nobody registers or drops a buyer in
them. -/
structure Transport.Steady [Transport ω] (calm : ω → Prop) : Prop where
  answer : ∀ {world world' : ω} (r : Request), calm world → calm world' →
    (Transport.send world r).1.SameAnswer (Transport.send world' r).1
  isAvailable : ∀ {world world' : ω} (buyerId : String), calm world → calm world' →
    Transport.isAvailable world' buyerId = Transport.isAvailable world buyerId
  send : ∀ {world : ω} (r : Request), calm world → calm (Transport.send world r).2
  effect : ∀ {world : ω} (r : Request), calm world → Idle calm (Transport.send world r).1.effect
  meanwhile : Idle calm (Transport.meanwhile : Registry → ω → Registry × ω)

/-- A script of one answer is never used up. -/
theorem ScriptedWorld.steady {w : ScriptedWorld} (hcalm : w.Calm)
    (hone : ∀ buyerId kind, (w.answers buyerId kind).length ≤ 1) :
    Transport.Steady fun v : ScriptedWorld =>
      v.scripts = w.scripts ∧ v.unavailable = w.unavailable := by
  have hanswers {v : ScriptedWorld} (hv : v.scripts = w.scripts) (buyerId : String)
      (kind : CallKind) : v.answers buyerId kind = w.answers buyerId kind := by
    rw [answers, hv, answers]
  have hsend {v : ScriptedWorld} (hv : v.scripts = w.scripts) (r : Request) :
      (Transport.send v r).2.scripts = w.scripts := by
    have hlength := hone r.buyerId r.kind
    rw [send_eq, hanswers hv]
    split
    · exact hv
    · exact hv
    · rename_i a rest hrest heq
      rw [heq] at hlength
      exact (hrest (List.length_eq_zero_iff.mp (by simpa using hlength))).elim
  exact {
    answer := fun {v v'} r hv hv' => by
      have hscripts : v'.scripts.get? r.buyerId = v.scripts.get? r.buyerId := by rw [hv.1, hv'.1]
      rw [(send_congr hscripts).1]
      exact ⟨rfl, rfl, rfl⟩
    isAvailable := fun buyerId hv hv' => by
      change (!List.contains _ _) = !List.contains _ _
      rw [hv.2, hv'.2]
    send := fun r hv => ⟨hsend hv.1 r, (send_unavailable _ r).trans hv.2⟩
    effect := fun r hv registry v' hv' => by
      rw [send_effect fun buyerId kind => hanswers hv.1 buyerId kind ▸ hcalm buyerId kind]
      exact ⟨rfl, hv'⟩
    meanwhile := fun _ _ hv => ⟨rfl, hv⟩ }

/-! ### What decides over an item -/

/-- What a sweep does about an item. -/
structure Change where
  attempted : Bool
  fate : SweepEnd
  /-- The entry of the ledger for which a retry is counted. -/
  counted : Option Nat
  entry : Option Entry
  letter : Option DeadLetter
  /-- The item, if it is put back. -/
  waiting : Option RetryItem
  /-- Whether a transform breaks off. -/
  broken : Bool

/-- Counts a retry for each of some positions. -/
def Ledger.countAll (l : Ledger) (positions : List Nat) : Ledger :=
  positions.foldl Ledger.countRetry l

namespace Exchange

/-- Whether two exchanges have the same engine and the same registry and understand all buyers
alike, and the world of the second one is calm. -/
structure SameTerms (x : Exchange ω) (calm : ω → Prop) (y : Exchange ω) : Prop where
  world : calm y.world
  engine : y.engine = x.engine
  registry : y.registry = x.registry
  vocabulary : ∀ buyerId, (y.vocabulary buyerId).1 = (x.vocabulary buyerId).1

/-- The second exchange has the books of the first one after a change. The item was taken out of the
backlog before. -/
structure Changed (c : Change) (key : RetryKey) (x y : Exchange ω) : Prop where
  ledger : y.ledger = x.ledger.countAll c.counted.toList ++ c.entry.toList
  deadLetters : y.deadLetters = x.deadLetters ++ c.letter.toList
  backlog : y.backlog = c.waiting.elim x.backlog fun left => x.backlog.put key left
  interrupted : y.interrupted = (x.interrupted || c.broken)

/-- Whether in every exchange on the same terms a sweep makes a change about an item. -/
structure Decides [Transport ω] (x : Exchange ω) (calm : ω → Prop) (now clock : Instant)
    (item : RetryItem) (c : Change) : Prop where
  counted : ∀ i ∈ c.counted, i ∈ item.origin
  entry : ∀ e ∈ c.entry, e.action = .retry
  treat : ∀ y : Exchange ω, x.SameTerms calm y → y.backlog.get? item.key = none →
    ∃ z, y.treat item now clock = (c.attempted, c.fate, z) ∧ Changed c item.key y z

variable {calm : ω → Prop} {x y z : Exchange ω}

theorem vocabulary_fst (x : Exchange ω) (buyerId : String) :
    (x.vocabulary buyerId).1 =
      (x.vocabularies.get? buyerId).getD (x.currentVocabulary buyerId) := by
  unfold vocabulary
  cases x.vocabularies.get? buyerId <;> rfl

theorem SameTerms.refl (h : calm x.world) : x.SameTerms calm x := ⟨h, rfl, rfl, fun _ => rfl⟩

theorem SameTerms.congr (h : x.SameTerms calm y) (hworld : calm z.world)
    (hengine : z.engine = y.engine) (hregistry : z.registry = y.registry)
    (hvocabularies : z.vocabularies = y.vocabularies) : x.SameTerms calm z where
  world := hworld
  engine := hengine.trans h.engine
  registry := hregistry.trans h.registry
  vocabulary buyerId := by
    rw [← h.vocabulary, vocabulary_fst, vocabulary_fst, hvocabularies, currentVocabulary, hregistry,
      currentVocabulary]

/-! ### The backlog after a change -/

namespace Changed

variable {c : Change} {key : RetryKey}

theorem get?_self (h : Changed c key x y) (hnone : x.backlog.get? key = none) :
    y.backlog.get? key = c.waiting := by
  rw [h.backlog]
  cases c.waiting with
  | none => exact hnone
  | some left => exact Table.get?_put_self key left x.backlog

theorem get?_of_ne (h : Changed c key x y) {other : RetryKey} (hne : other ≠ key) :
    y.backlog.get? other = x.backlog.get? other := by
  rw [h.backlog]
  cases c.waiting with
  | none => rfl
  | some left => exact Table.get?_put_of_ne hne left x.backlog

theorem ordered (h : Changed c key x y) (hx : x.backlog.Ordered) : y.backlog.Ordered := by
  rw [h.backlog]
  cases c.waiting with
  | none => exact hx
  | some left => exact hx.put key left

end Changed

/-! ### The terms last -/

/-- A vocabulary that is looked up is the one that is remembered. -/
theorem SameTerms.remember (h : x.SameTerms calm y) (buyerId : String) :
    x.SameTerms calm (y.vocabulary buyerId).2 := by
  have hsame := y.vocabulary_surroundings buyerId
  have hengine : (y.vocabulary buyerId).2.engine = y.engine := by
    unfold Exchange.vocabulary
    split <;> rfl
  refine ⟨hsame.world ▸ h.world, hengine.trans h.engine, hsame.registry.trans h.registry,
    fun other => ?_⟩
  rw [← h.vocabulary, vocabulary_fst, vocabulary_fst, currentVocabulary, hsame.registry,
    ← currentVocabulary]
  unfold Exchange.vocabulary
  cases hknown : y.vocabularies.get? buyerId with
  | some v => rfl
  | none =>
    by_cases hother : other = buyerId
    · subst hother
      simp [hknown]
    · simp [Table.get?_put_of_ne hother]

theorem SameTerms.payload_fst (h : x.SameTerms calm y) (kind : CallKind) (lead : Lead)
    (buyer : Buyer) (service : Service) (now : Instant) :
    (y.payload kind lead buyer service now).1 = (x.payload kind lead buyer service now).1 := by
  simp only [Exchange.payload, h.engine]

theorem SameTerms.payload (h : x.SameTerms calm y) (kind : CallKind) (lead : Lead) (buyer : Buyer)
    (service : Service) (now : Instant) :
    x.SameTerms calm (y.payload kind lead buyer service now).2 := by
  have hsame := y.payload_surroundings kind lead buyer service now
  exact h.congr (hsame.world ▸ h.world) (payload_engine ..) hsame.registry
    (payload_vocabularies ..)

end Exchange

variable [Transport ω] {calm : ω → Prop}

/-- In a steady world the terms last. -/
theorem Transport.Steady.lasting (h : Transport.Steady calm) (x : Exchange ω) :
    Exchange.Lasting (Idle calm) (fun _ => True) (x.SameTerms calm) where
  congr hy hsame := hy.congr (hsame.world ▸ hy.world) hsame.engine hsame.registry hsame.vocabularies
  vocabulary buyerId hy := hy.remember buyerId
  registered _ _ := trivial
  payload _ _ _ hy _ _ := hy.payload ..
  launch r hy := ⟨h.effect r hy.world, hy.congr (h.send r hy.world) rfl rfl rfl⟩
  act hact hy := by
    obtain ⟨hidle, hcalm⟩ := hact _ _ hy.world
    exact hy.congr hcalm rfl hidle rfl
  meanwhile := h.meanwhile

namespace Exchange

/-! ### Breaking off -/

omit [Transport ω] in
theorem payload_interrupted (x : Exchange ω) (kind : CallKind) (lead : Lead) (buyer : Buyer)
    (service : Service) (now : Instant) :
    (x.payload kind lead buyer service now).2.interrupted =
      (x.interrupted || Payload.isBrokenOff (x.payload kind lead buyer service now).1) := by
  unfold payload notePayload
  dsimp only
  split <;> simp_all [Payload.isBrokenOff]

omit [Transport ω] in
theorem vocabulary_interrupted (x : Exchange ω) (buyerId : String) :
    (x.vocabulary buyerId).2.interrupted = x.interrupted := by
  unfold vocabulary
  split <;> rfl

theorem call_interrupted (x : Exchange ω) (r : Request) :
    (x.call r).2.2.interrupted = x.interrupted := by
  simp only [call]
  split <;> rfl

/-- A POST breaks off only where its payload is made. -/
theorem post_interrupted (x : Exchange ω) (lead : Lead) (buyer : Buyer) (service : Service)
    (now : Instant) : (x.post lead buyer service now).2.2.interrupted =
      (x.payload .post lead buyer service now).2.interrupted := by
  unfold post
  split
  · rename_i e y heq
    rw [heq]
  · rename_i body y heq
    rw [heq]
    have hcall := y.call_interrupted (request .post buyer service body)
    split
    · rename_i e elapsed z heq'
      rwa [heq'] at hcall
    · rename_i reply elapsed z heq'
      rw [heq'] at hcall
      exact (z.vocabulary_interrupted buyer.id).trans hcall

/-! ### Items -/

variable {x y : Exchange ω}

theorem call_answer (x : Exchange ω) (r : Request) :
    (x.call r).1 = (if (Transport.send x.world r).1.delayMs ≤ r.timeoutMs
      then (Transport.send x.world r).1.outcome else .error (.timeout r.timeoutMs)) ∧
      (x.call r).2.1 = (Transport.send x.world r).1.measuredMs := by
  by_cases hearly : (Transport.send x.world r).1.delayMs ≤ r.timeoutMs <;>
    simp [call, launch, hearly]

theorem call_same (hsteady : Transport.Steady calm) (hx : calm x.world) (hy : calm y.world)
    (r : Request) : (y.call r).1 = (x.call r).1 ∧ (y.call r).2.1 = (x.call r).2.1 := by
  obtain ⟨hdelay, hmeasured, houtcome⟩ := hsteady.answer r hx hy
  rw [(y.call_answer r).1, (x.call_answer r).1, (y.call_answer r).2, (x.call_answer r).2, hdelay,
    hmeasured, houtcome]
  exact ⟨rfl, rfl⟩

/-- What comes of a POST does not depend on the books. -/
theorem post_same (hsteady : Transport.Steady calm) (hx : calm x.world) (h : x.SameTerms calm y)
    (lead : Lead) (buyer : Buyer) (service : Service) (now : Instant) :
    (y.post lead buyer service now).1 = (x.post lead buyer service now).1 ∧
      (y.post lead buyer service now).2.1 = (x.post lead buyer service now).2.1 := by
  have hlasting := hsteady.lasting x
  have hbody := h.payload_fst .post lead buyer service now
  have hx₁ := (SameTerms.refl hx).payload .post lead buyer service now
  have hy₁ := h.payload .post lead buyer service now
  rcases hpayx : x.payload .post lead buyer service now with ⟨made, x₁⟩
  rcases hpayy : y.payload .post lead buyer service now with ⟨made', y₁⟩
  rw [hpayx] at hx₁ hbody
  rw [hpayy] at hy₁ hbody
  obtain rfl : made' = made := hbody
  cases made' with
  | error e => simp only [post, hpayx, hpayy, and_self]
  | ok body =>
    have hsame := call_same hsteady hx₁.world hy₁.world (request .post buyer service body)
    have hx₂ := hlasting.call hx₁ (request .post buyer service body)
    have hy₂ := hlasting.call hy₁ (request .post buyer service body)
    rcases hcallx : x₁.call (request .post buyer service body) with ⟨outcome, elapsed, x₂⟩
    rcases hcally : y₁.call (request .post buyer service body) with ⟨outcome', elapsed', y₂⟩
    rw [hcallx] at hx₂ hsame
    rw [hcally] at hy₂ hsame
    obtain ⟨rfl, rfl⟩ : outcome' = outcome ∧ elapsed' = elapsed := hsame
    cases outcome' with
    | error e => simp only [post, hpayx, hpayy, hcallx, hcally, and_self]
    | ok reply =>
      have hvocabulary : (y₂.vocabulary buyer.id).1 = (x₂.vocabulary buyer.id).1 :=
        (hy₂.vocabulary buyer.id).trans (hx₂.vocabulary buyer.id).symm
      simp only [post, hpayx, hpayy, hcallx, hcally, readPost, hvocabulary, and_self]

/-- A delivery adds the same entry to all books, its result differs in the place of the entry only,
and it breaks off for all or for none. -/
theorem deliver_same (hsteady : Transport.Steady calm) (hx : calm x.world) (lead : Lead)
    (buyer : Buyer) (service : Service) (context : DeliveryContext) (now : Instant) :
    ∃ (p : PostResult) (e : Entry) (broken : Bool), e.action = context.action ∧
      ∀ y : Exchange ω, x.SameTerms calm y →
        ∃ place z, y.deliver lead buyer service context now = ({ p with entry := place }, z) ∧
          y.Appends [e] z ∧ z.interrupted = (y.interrupted || broken) := by
  rcases hpost : x.post lead buyer service now with ⟨p, label, x'⟩
  refine ⟨p, p.toEntry lead.id label context,
    Payload.isBrokenOff (x.payload .post lead buyer service now).1, rfl, fun y hterms => ?_⟩
  have hsame := post_same hsteady hx hterms lead buyer service now
  have hbroken := (y.post_interrupted lead buyer service now).trans (y.payload_interrupted ..)
  rw [hterms.payload_fst] at hbroken
  obtain ⟨-, -, hframe⟩ := y.post_spec lead buyer service now
  rcases hposty : y.post lead buyer service now with ⟨q, label', w⟩
  rw [hpost, hposty] at hsame
  rw [hposty] at hframe hbroken
  obtain ⟨rfl, rfl⟩ : q = p ∧ label' = label := hsame
  simp only [deliver, hposty, concludePost]
  have hnote := hframe.after (w.noteResponse_appends q.buyerId q.responseTimeMs q.isHealthy)
  exact ⟨_, _, rfl, hnote.after (record_appends _ _), hbroken⟩

omit [Transport ω] in
/-- Where an item is placed after an attempt is decided by the answer. -/
theorem place_eq (item : RetryItem) (p : PostResult) (now : Instant) :
    ∃ (fate : SweepEnd) (letter : Option DeadLetter) (waiting : Option RetryItem),
      ∀ y : Exchange ω, y.backlog.get? item.key = none →
        y.place item p now = (fate, { y with
          deadLetters := y.deadLetters ++ letter.toList
          backlog := waiting.elim y.backlog fun left => y.backlog.put item.key left }) := by
  cases hstatus : p.status with
  | delivered => exact ⟨.delivered, none, none, fun y _ => by simp [place, hstatus]⟩
  | duplicate =>
    exact ⟨.deadLettered, some ⟨item, .answered .duplicate⟩, none, fun y _ => by
      simp [place, hstatus, giveUp]⟩
  | invalid =>
    exact ⟨.deadLettered, some ⟨item, .answered .invalid⟩, none, fun y _ => by
      simp [place, hstatus, giveUp]⟩
  | failed =>
    by_cases hspent : item.policy.maxAttempts ≤ item.attempts
    · exact ⟨.deadLettered, some ⟨{ item with lastError := p.explanation }, .exhausted⟩, none,
        fun y _ => by simp [place, placeFailed, hstatus, hspent, giveUp]⟩
    · let left := { item with lastError := p.explanation }.reschedule now
      refine ⟨.rescheduled, none, some left, fun y hnone => ?_⟩
      have hback : y.requeue left = { y with backlog := y.backlog.put item.key left } :=
        requeue_eq hnone
      simp [place, placeFailed, hstatus, hspent, ← hback, left]

theorem attempt_changed (hsteady : Transport.Steady calm) (hx : calm x.world) (item : RetryItem)
    (buyer : Buyer) (service : Service) (now clock : Instant) :
    ∃ c : Change, c.attempted = true ∧ (∀ i ∈ c.counted, i ∈ item.origin) ∧
      (∀ e ∈ c.entry, e.action = .retry) ∧
      ∀ y : Exchange ω, x.SameTerms calm y → y.backlog.get? item.key = none →
        ∃ z, y.attempt item buyer service now clock = (c.fate, z) ∧ Changed c item.key y z := by
  obtain ⟨p, e, broken, haction, hdeliver⟩ := deliver_same hsteady hx item.tried.lead buyer service
    (.ofRetry item.tried.auction item.tried.bidAmount item.tried.attempts) clock
  obtain ⟨fate, letter, waiting, hplace⟩ := place_eq (ω := ω) item.tried p now
  refine ⟨⟨true, fate, item.origin, some e, letter, waiting, broken⟩, rfl, fun i hi => hi, ?_,
    fun y hterms hnone => ?_⟩
  · rintro f ⟨⟩
    exact haction
  have hcount := y.countRetry_recounts item.origin
  have hcounted : (y.countRetry item.origin).ledger = y.ledger.countAll item.origin.toList := by
    cases item.origin <;> rfl
  have hsetting := y.countRetry_setting item.origin
  obtain ⟨entry, z, heq, hframe, hbroken⟩ := hdeliver (y.countRetry item.origin)
    ((hsteady.lasting x).congr hterms hsetting)
  have hbacklog : z.backlog = y.backlog := hframe.backlog.trans hcount.backlog
  have hplaced : z.place item.tried { p with entry } now = z.place item.tried p now := rfl
  have hattempt : y.attempt item buyer service now clock = z.place item.tried p now := by
    rw [← hplaced]
    exact congrArg (fun d : PostResult × Exchange ω => d.2.place item.tried d.1 now) heq
  refine ⟨_, hattempt.trans (hplace z (hbacklog ▸ hnone)), ?_, ?_, ?_, ?_⟩
  · rw [← hcounted]
    exact hframe.ledger
  · exact congrArg (· ++ letter.toList) (hframe.deadLetters.trans hcount.deadLetters)
  · exact congrArg (fun b : Backlog => waiting.elim b fun left => b.put item.key left) hbacklog
  · exact hbroken.trans (congrArg (· || broken) hsetting.interrupted)

/-- **What a sweep does about an item is decided by the item.** -/
theorem decides (hsteady : Transport.Steady calm) (hx : calm x.world) (item : RetryItem)
    (now clock : Instant) : ∃ c, x.Decides calm now clock item c := by
  have hgiven (y : Exchange ω) (reason : GivenUp) :
      Changed ⟨false, .deadLettered, none, none, some ⟨item, reason⟩, none, false⟩ item.key y
        (y.giveUp item reason) :=
    ⟨(List.append_nil _).symm, rfl, rfl, (Bool.or_false _).symm⟩
  rcases hbuyer : x.registry.get? item.buyerId with _ | buyer
  · refine ⟨_, by simp, by simp, fun y hterms _ => ⟨_, ?_, hgiven y .unregistered⟩⟩
    simp only [treat, hterms.registry, hbuyer]
  rcases hservice : buyer.serviceFor? item.lead with _ | service
  · refine ⟨_, by simp, by simp, fun y hterms _ => ⟨_, ?_, hgiven y .ineligible⟩⟩
    simp only [treat, hterms.registry, hbuyer, hservice]
  have hopen {y : Exchange ω} (hy : calm y.world) :
      y.isAvailable buyer.id = x.isAvailable buyer.id :=
    hsteady.isAvailable buyer.id hx hy
  by_cases havailable : x.isAvailable buyer.id = true
  · obtain ⟨c, hattempted, hcounted, hentry, hattempt⟩ :=
      attempt_changed hsteady hx item buyer service now clock
    refine ⟨c, hcounted, hentry, fun y hterms hnone => ?_⟩
    obtain ⟨z, heq, hchanged⟩ := hattempt y hterms hnone
    refine ⟨z, ?_, hchanged⟩
    simp only [treat, hterms.registry, hbuyer, hservice, hopen hterms.world, if_pos havailable, heq,
      hattempted]
  · refine ⟨⟨false, .rescheduled, none, none, none, some (item.reschedule now), false⟩, by simp,
      by simp, fun y hterms hnone => ⟨y.requeue (item.reschedule now), ?_, ?_⟩⟩
    · simp only [treat, hterms.registry, hbuyer, hservice, hopen hterms.world, if_neg havailable]
    · have hkey : y.backlog.get? (item.reschedule now).key = none := hnone
      rw [requeue_eq hkey]
      exact ⟨(List.append_nil _).symm, (List.append_nil _).symm, rfl, (Bool.or_false _).symm⟩

/-- The sweep of one key makes the change that is decided about its item. -/
theorem Decides.sweepKey {c : Change} {item : RetryItem} {now clock : Instant} {key : RetryKey}
    (h : x.Decides calm now clock item c) (hsteady : Transport.Steady calm)
    (hterms : x.SameTerms calm y) (hkey : item.key = key)
    (hitem : y.backlog.get? key = some item) (report : SweepReport) :
    ∃ z, y.sweepKey report key now clock = (report.add c.attempted c.fate, z) ∧
      Changed c key (y.without key) z ∧ x.SameTerms calm z := by
  have hlasting := hsteady.lasting x
  have htaken : x.SameTerms calm (y.without key) :=
    hlasting.congr hterms ⟨⟨rfl, rfl⟩, rfl, rfl, rfl⟩
  have hnone : (y.without key).backlog.get? item.key = none := by
    rw [hkey]
    exact Table.get?_erase_self _ _
  obtain ⟨z, htreat, hchanged⟩ := h.treat (y.without key) htaken hnone
  have heq := sweepKey_eq report now clock hitem
  rw [htreat] at heq
  refine ⟨z, heq, hkey ▸ hchanged, ?_⟩
  have hafter := hlasting.sweepKey hterms report key now clock
  rwa [heq] at hafter

end Exchange

end PingPost
