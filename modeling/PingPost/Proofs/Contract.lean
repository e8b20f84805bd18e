import PingPost.Proofs.Layouts
import PingPost.Proofs.Sanitizing

/-!
What a template promises of its payloads, and that every payload keeps it
(`Engine.payload_keeps_contract`).

A required mapping is looked at twice: the value it starts from must not be missing, and there must
be something at its target in what is sent. Between the two, words and transforms may change the
value, other mappings, the evidence, the constants and the hook may write over it, and sanitising
may leave nothing of it; so the second look does not follow from the first.
-/

namespace PingPost

/-- What a template, under a general limit on the size, promises of a payload. -/
structure Template.Promises (t : Template) (limit : Nat) (payload : Fields) : Prop where
  filled : ∀ m ∈ t.mappings, m.required = true →
    ∃ v, (Json.object payload).lookup? m.target = some v ∧ v.isMissing = false
  small : Payload.size payload ≤ t.maxPayloadBytes.getD limit
  clean : ∀ s ∈ Sanitize.textsOfFields payload, ∃ s', s = Sanitize.text s'

/-- The value a mapping would start from is missing, or there is none. -/
def Mapping.Lacks (m : Mapping) (facts : Json) : Prop :=
  ∀ v, m.resolve? facts = some v → v.isMissing = true

/-- The failure of a required mapping that lacks its value. -/
def Mapping.lackOf (m : Mapping) : MappingFailure :=
  ⟨m.source, m.target, .invalid ⟨m.source, .requiredMissing m.target⟩⟩

variable {t : Template} {m : Mapping} {c : Catalogue} {facts : Json} {payload : Fields}

theorem Payload.isFilled_iff {path : String} :
    isFilled payload path = true ↔
      ∃ v, (Json.object payload).lookup? path = some v ∧ v.isMissing = false := by
  simp [isFilled, Option.any_eq_true]

theorem Template.mem_requiredTargets {path : String} :
    path ∈ t.requiredTargets ↔ ∃ m ∈ t.mappings, m.required = true ∧ m.target = path := by
  simp [requiredTargets, and_assoc]

/-- Whatever came before, what leaves the last stage is as promised. -/
theorem Engine.promises_of_finish {e : Engine} {raw : Fields} (h : e.finish t raw = .ok payload) :
    t.Promises e.limit payload := by
  obtain ⟨rfl, hcheck⟩ := finish_eq_ok_iff.mp h
  obtain ⟨hfilled, hsmall⟩ := Payload.check_eq_ok_iff.mp hcheck
  refine ⟨fun m hm hrequired => ?_, hsmall, fun s hs => ?_⟩
  · exact Payload.isFilled_iff.mp
      (hfilled m.target (Template.mem_requiredTargets.mpr ⟨m, hm, hrequired, rfl⟩))
  · rw [Sanitize.texts_valueFields] at hs
    obtain ⟨s', -, rfl⟩ := List.mem_map.mp hs
    exact ⟨s', rfl⟩

theorem Mapping.value_of_lacks (hrequired : m.required = true) (h : m.Lacks facts) :
    m.value c facts = .error (.invalid ⟨m.source, .requiredMissing m.target⟩) := by
  unfold value
  cases hresolve : m.resolve? facts with
  | none => simp only [hrequired, if_true]
  | some v => simp only [h v hresolve, hrequired, if_true]; rfl

theorem Mapping.apply_of_lacks (hrequired : m.required = true) (h : m.Lacks facts) :
    m.apply c facts = .error m.lackOf := by
  rw [apply, value_of_lacks hrequired h, lackOf]

/-- One required mapping that lacks its value is enough for there to be no payload. Its failure is
reported, whatever else fails, unless a transform breaks off. -/
theorem Template.mapped_of_lacks (hm : m ∈ t.mappings) (hrequired : m.required = true)
    (h : m.Lacks facts) (hbreaks : t.breaksOff c facts = false) :
    ∃ fs, t.mapped c facts = .error (.mappings fs) ∧ m.lackOf ∈ fs := by
  have hmem : m.lackOf ∈ t.failures c facts :=
    List.mem_filterMap.mpr ⟨m, hm, by rw [Mapping.apply_of_lacks hrequired h]⟩
  exact ⟨_, mapped_eq_error_iff.mpr ⟨List.ne_nil_of_mem hmem, rfl, hbreaks⟩, hmem⟩

/-- **Every payload keeps the promises of its template.** A required mapping whose value is missing
among the facts is reported just when no mapping breaks off; otherwise the engine breaks off, and
reports nothing. In a template whose layouts can all be written no mapping does. -/
theorem Engine.payload_keeps_contract (e : Engine) (lead : Lead) (buyer : Buyer) (t : Template)
    (withEvidence : Bool) (now : Instant) :
    (∀ payload, e.payload lead buyer t withEvidence now = .ok payload →
      t.Promises e.limit payload) ∧
    ∀ facts, lead.check = .ok () → buyer.check = .ok () → t.check = .ok () →
      e.before buyer.id (lead.facts now) = .ok facts →
      ∀ m ∈ t.mappings, m.required = true → m.Lacks (.object facts) →
      ((∃ fs, e.payload lead buyer t withEvidence now = .error (.mappings fs) ∧ m.lackOf ∈ fs) ↔
        ∀ k ∈ t.mappings, ¬k.BreaksOff e.catalogue (.object facts)) ∧
      ((∃ k ∈ t.mappings, k.BreaksOff e.catalogue (.object facts)) →
        e.payload lead buyer t withEvidence now = .error .brokenOff) ∧
      (e.catalogue = .standard → t.isWritable = true →
        ∀ k ∈ t.mappings, ¬k.BreaksOff e.catalogue (.object facts)) := by
  constructor
  · intro payload h
    obtain ⟨-, -, -, facts, mapped, raw, -, -, -, hfinish⟩ := payload_eq_ok_iff.mp h
    exact promises_of_finish hfinish
  intro facts hlead hbuyer ht hfacts m hm hrequired hlacks
  have hbroken {k : Mapping} (hk : k ∈ t.mappings)
      (h : k.BreaksOff e.catalogue (.object facts)) :
      e.payload lead buyer t withEvidence now = .error .brokenOff :=
    payload_of_breaksOff hlead hbuyer ht hfacts hk h
  refine ⟨⟨?_, fun hnone => ?_⟩, fun ⟨k, hk, h⟩ => hbroken hk h, ?_⟩
  · rintro ⟨fs, h, -⟩ k hk hbreaks
    cases h.symm.trans (hbroken hk hbreaks)
  · have hbreaks : t.breaksOff e.catalogue (.object facts) = false := by
      rw [← Bool.not_eq_true, Template.breaksOff_iff]
      rintro ⟨k, hk, hbreaks⟩
      exact hnone k hk hbreaks
    obtain ⟨fs, hmapped, hmem⟩ := Template.mapped_of_lacks hm hrequired hlacks hbreaks
    exact ⟨fs, payload_eq_mappings_iff.mpr ⟨hlead, hbuyer, ht, facts, hfacts, hmapped⟩, hmem⟩
  · intro hcatalogue hwritable k hk hbreaks
    have h := Template.breaksOff_iff.mpr ⟨k, hk, hbreaks⟩
    rw [hcatalogue, Template.breaksOff_eq_false hwritable] at h
    cases h

/-- A mapping from a fact that the sample lead does not have. -/
def Sample.bathrooms : Mapping := ⟨"bathrooms", "home.bathrooms", none, true, none, none, none⟩

open Sample in
theorem Sample.lacks_bathrooms : bathrooms.Lacks (.object (lead.facts ⟨5, 0⟩)) := by
  intro v hv
  have hnone : bathrooms.resolve? (.object (lead.facts ⟨5, 0⟩)) = none := by rfl
  rw [hnone] at hv
  cases hv

open Sample in
set_option maxRecDepth 10000 in
theorem Engine.payload_keeps_contract_sample :
    (∃ p, reshaped [age "home.age"] = .ok p ∧
      (template [age "home.age"]).Promises Engine.standard.limit p) ∧
    ∃ fs, reshaped [owner "home.owned", bathrooms] = .error (.mappings fs) ∧
      bathrooms.lackOf ∈ fs := by
  have hok : (reshaped [age "home.age"]).isOk = true := by decide +kernel
  obtain ⟨p, hp⟩ := exists_of_isOk hok
  refine ⟨⟨p, hp, (payload_keeps_contract _ _ _ _ _ _).1 p hp⟩, ?_⟩
  obtain ⟨hreported, -, hwritable⟩ := (payload_keeps_contract .standard lead (buyer .standard)
    (template [owner "home.owned", bathrooms]) true ⟨5, 0⟩).2 (lead.facts ⟨5, 0⟩)
    (by decide) (by decide) (by decide) rfl bathrooms (by simp [template])
    rfl lacks_bathrooms
  exact hreported.mpr (hwritable Engine.standard_catalogue (by decide))

/-- The time the lead came about, in a layout that cannot be written. -/
def Sample.unwritable : Mapping :=
  ⟨"createdAt", "created", some (.withArgs "date.format" [.text "%#z"]), false, none, none, none⟩

open Sample in
theorem Sample.unwritable_breaksOff {now : Instant}
    (hfact : unwritable.resolve? (.object (lead.facts now)) = some (.text "1970-01-01T00:00:00Z")) :
    unwritable.BreaksOff .standard (.object (lead.facts now)) := by
  have hdate : Transform.instant (.text "1970-01-01T00:00:00Z") = .ok ⟨0, 0⟩ := by rfl
  exact Mapping.breaksOff_of_layout rfl rfl rfl rfl hfact hdate rfl List.mem_cons_self

open Sample in
set_option maxRecDepth 10000 in
/-- A template that passes the check has a required mapping that lacks its value, and none is
reported: another mapping breaks off. -/
theorem Engine.payload_unreported :
    (template [bathrooms, unwritable]).check.isOk = true ∧ bathrooms.required = true ∧
      bathrooms.Lacks (.object (lead.facts ⟨5, 0⟩)) ∧
      reshaped [bathrooms, unwritable] = .error .brokenOff := by
  have hcheck : (template [bathrooms, unwritable]).check = .ok () := by decide +kernel
  refine ⟨by rw [hcheck]; rfl, rfl, lacks_bathrooms, ?_⟩
  refine payload_of_breaksOff (by decide) (by decide) hcheck rfl
    (List.mem_cons_of_mem _ List.mem_cons_self) ?_
  rw [standard_catalogue]
  exact unwritable_breaksOff rfl

end PingPost
