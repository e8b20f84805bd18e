import PingPost.Proofs.Sample

/-!
Where the facts of a lead come from.

The exchange reserves names for what it knows of a lead itself (`Lead.reservedNames`), and writes
what it knows over the consumer's answers. It writes nothing where it knows nothing, so an answer
under a reserved name stands for the fact until the fact is known: the two leads of
`Lead.status_impersonated` differ in their answers only, and one of them has a status. Apart from
that an answer never passes for a fact (`Lead.facts_unaffected`).
-/

namespace PingPost

namespace Lead

/-- The names of the facts that the exchange knows of every lead. -/
def vitalNames : List String :=
  ["leadId", "serviceTypeId", "zipCode", "ownsHome", "timeframe", "createdAt", "leadAgeMinutes",
    "hasCompliance"]

/-- The names of the facts that the evidence of consent may hold. -/
def evidenceNames : List String :=
  ["trustedFormCertUrl", "trustedFormCertId", "jornayaLeadId", "tcpaConsent", "tcpaConsentText",
    "ipAddress", "userAgent", "complianceTimestamp", "geoLatitude", "geoLongitude", "geoCity",
    "geoState", "utmSource", "utmMedium", "utmCampaign", "utmTerm", "utmContent", "gclid", "fbclid",
    "landingPage", "referrer"]

/-- The names under which the exchange writes what it knows of a lead itself. -/
def reservedNames : List String := vitalNames ++ "status" :: evidenceNames

/-- The lead with some other answers. -/
def withAnswers (l : Lead) (answers : Fields) : Lead := { l with answers }

/-- What the exchange knows of a lead itself, by the names of the facts. -/
def known (l : Lead) (now : Instant) : List (String × Option Json) :=
  (l.compliance.map Compliance.facts).getD [] ++ l.coreFacts now

/-- Whether the exchange knows a fact of a lead itself. -/
def Knows (l : Lead) (now : Instant) (name : String) : Prop := ∃ v, (name, some v) ∈ l.known now

variable {l : Lead} {now : Instant} {name : String} {fields fields' : Fields}
  {facts facts' : List (String × Option Json)}

theorem putFacts_append :
    putFacts fields (facts ++ facts') = putFacts (putFacts fields facts) facts' := by
  rw [putFacts, List.filterMap_append, Table.putAll_append]
  rfl

/-- The facts that have a value are written, one after the other. -/
theorem exists_written (facts : List (String × Option Json)) :
    ∃ written : List (String × Json), (∀ fields, putFacts fields facts = fields.putAll written) ∧
      ∀ name v, (name, v) ∈ written ↔ (name, some v) ∈ facts := by
  refine ⟨_, fun _ => rfl, fun name v => ?_⟩
  rw [List.mem_filterMap]
  constructor
  · rintro ⟨⟨key, _⟩, hfact, h⟩
    obtain ⟨w, rfl, hpair⟩ := Option.map_eq_some_iff.mp h
    cases hpair
    exact hfact
  · exact fun hfact => ⟨_, hfact, rfl⟩

/-- Under a name without a value nothing is written. -/
theorem get?_putFacts_of_forall_not_mem (h : ∀ v, (name, some v) ∉ facts) :
    (putFacts fields facts).get? name = fields.get? name := by
  obtain ⟨written, hwritten, hmem⟩ := exists_written facts
  have hnone : Table.get? name written.reverse = none := by
    refine Table.get?_eq_none_iff.mpr fun hkey => ?_
    obtain ⟨⟨_, v⟩, hpair, rfl⟩ := List.mem_map.mp hkey
    exact h v ((hmem _ v).mp (List.mem_reverse.mp hpair))
  rw [hwritten, Table.get?_putAll, hnone, Option.none_or]

/-- Under a name with a value nothing is left of what stood there. -/
theorem get?_putFacts_congr {v : Json} (h : (name, some v) ∈ facts) :
    (putFacts fields facts).get? name = (putFacts fields' facts).get? name := by
  obtain ⟨written, hwritten, hmem⟩ := exists_written facts
  have hsome : Table.get? name written.reverse ≠ none := fun hnone =>
    Table.get?_eq_none_iff.mp hnone
      (List.mem_map.mpr ⟨_, List.mem_reverse.mpr ((hmem name v).mpr h), rfl⟩)
  obtain ⟨w, hw⟩ := Option.ne_none_iff_exists'.mp hsome
  rw [hwritten, hwritten, Table.get?_putAll, Table.get?_putAll, hw, Option.some_or,
    Option.some_or]

/-- The answers come first, and what is known is written over them. -/
theorem facts_eq (l : Lead) (now : Instant) :
    l.facts now = putFacts (l.answers.put "formData" (.object l.answers)) (l.known now) :=
  putFacts_append.symm

theorem get?_facts_of_not_knows (h : ¬l.Knows now name) (hname : name ≠ "formData") :
    (l.facts now).get? name = l.answers.get? name := by
  rw [facts_eq, get?_putFacts_of_forall_not_mem fun v hv => h ⟨v, hv⟩, Table.get?_put_of_ne hname]

/-- What is known does not depend on the answers. -/
theorem get?_facts_withAnswers (h : l.Knows now name) (answers : Fields) :
    (l.facts now).get? name = ((l.withAnswers answers).facts now).get? name := by
  obtain ⟨v, hv⟩ := h
  rw [facts_eq, facts_eq]
  exact get?_putFacts_congr hv

theorem knows_of_mem_vitalNames (h : name ∈ vitalNames) : l.Knows now name := by
  have hcore : ∃ v, (name, some v) ∈ l.coreFacts now := by
    simp only [vitalNames, List.mem_cons, List.not_mem_nil, or_false] at h
    rcases h with rfl | rfl | rfl | rfl | rfl | rfl | rfl | rfl <;> simp [coreFacts]
  exact hcore.imp fun v hv => List.mem_append_right _ hv

/-- **Answers pass for a fact only where the exchange does not know it.** Two leads that differ in
their answers only have the same facts under the names of what is known of every lead. Under any
other reserved name they have the same fact just when it is known or both answered alike. -/
theorem facts_unaffected (l : Lead) (answers : Fields) (now : Instant) :
    (∀ name ∈ vitalNames,
      (l.facts now).get? name = ((l.withAnswers answers).facts now).get? name) ∧
    ∀ name ∈ reservedNames,
      ((l.facts now).get? name = ((l.withAnswers answers).facts now).get? name ↔
        l.Knows now name ∨ l.answers.get? name = answers.get? name) := by
  refine ⟨fun name hname => get?_facts_withAnswers (knows_of_mem_vitalNames hname) answers,
    fun name hname => ?_⟩
  by_cases hknows : l.Knows now name
  · exact iff_of_true (get?_facts_withAnswers hknows answers) (.inl hknows)
  · have hne : name ≠ "formData" := by
      rintro rfl
      revert hname
      decide
    have hother : ¬(l.withAnswers answers).Knows now name := hknows
    rw [get?_facts_of_not_knows hknows hne, get?_facts_of_not_knows hother hne, or_iff_right hknows]
    rfl

end Lead

/-- A lead of which no status and no evidence are known, and whose consumer answers under reserved
names. -/
def Sample.pretending : Lead :=
  lead.withAnswers
    [("status", .text "sold"), ("trustedFormCertUrl", .text "https://cert.example"),
      ("zipCode", .text "00000")]

open Sample in
theorem Lead.facts_unaffected_sample :
    "zipCode" ∈ vitalNames ∧ "gclid" ∈ reservedNames ∧
      (pretending.facts ⟨5, 0⟩).get? "zipCode" =
        ((pretending.withAnswers []).facts ⟨5, 0⟩).get? "zipCode" ∧
      (pretending.facts ⟨5, 0⟩).get? "gclid" =
        ((pretending.withAnswers []).facts ⟨5, 0⟩).get? "gclid" := by
  obtain ⟨hvital, hreserved⟩ := Lead.facts_unaffected pretending [] ⟨5, 0⟩
  have hzip : "zipCode" ∈ vitalNames := by decide
  have hgclid : "gclid" ∈ reservedNames := by decide
  exact ⟨hzip, hgclid, hvital "zipCode" hzip, (hreserved "gclid" hgclid).mpr (.inr rfl)⟩

open Sample in
/-- An answer passes for a status, and another one for a certificate, that the exchange does not
know. -/
theorem Lead.status_impersonated :
    "status" ∈ reservedNames ∧ "trustedFormCertUrl" ∈ reservedNames ∧
      (pretending.facts ⟨5, 0⟩).get? "status" = some (.text "sold") ∧
      ((pretending.withAnswers []).facts ⟨5, 0⟩).get? "status" = none ∧
      (pretending.facts ⟨5, 0⟩).get? "trustedFormCertUrl" = some (.text "https://cert.example") ∧
      ((pretending.withAnswers []).facts ⟨5, 0⟩).get? "trustedFormCertUrl" = none := by
  have hunknown (answers : Fields) (name : String)
      (hname : name = "status" ∨ name = "trustedFormCertUrl") :
      ¬(lead.withAnswers answers).Knows ⟨5, 0⟩ name := by
    rintro ⟨v, hv⟩
    rcases hname with rfl | rfl <;> simp [known, coreFacts, withAnswers, lead] at hv
  have hstatus (answers : Fields) :=
    get?_facts_of_not_knows (hunknown answers "status" (.inl rfl)) (by decide)
  have hcertificate (answers : Fields) :=
    get?_facts_of_not_knows (hunknown answers "trustedFormCertUrl" (.inr rfl)) (by decide)
  refine ⟨by decide, by decide, (hstatus _).trans rfl, (hstatus []).trans rfl,
    (hcertificate _).trans rfl, (hcertificate []).trans rfl⟩

end PingPost
