import Mathlib.Data.List.Basic
import PingPost.Proofs.Contract

/-!
The failures of mappings, one mapping at a time.

All mappings of a template read the same facts, and none sees what another one makes of them. So a
template reports what its mappings report alone, in their order, and a change of one mapping leaves
what the others report as it was (`Engine.payload_failures`). But where one mapping breaks off
nothing is reported (`Engine.payload_unreported`).
-/

namespace PingPost

/-- The template with one mapping only. -/
def Template.only (t : Template) (m : Mapping) : Template := t.withMappings [m]

namespace Template

variable {t : Template} {m : Mapping} {ms : List Mapping} {c : Catalogue} {facts : Json}

/-- A template stays in order when mappings are left out. -/
theorem check_sublist (ht : t.check = .ok ()) (hms : ms.Sublist t.mappings) :
    (t.withMappings ms).check = .ok () := by
  obtain ⟨hsound, hnodup, -⟩ := checkFrom_eq_ok_iff.mp ht
  refine checkFrom_eq_ok_iff.mpr ⟨fun m hm => hsound m (hms.subset hm), ?_, ?_⟩
  · exact hnodup.sublist (hms.map _)
  · exact fun m _ => List.not_mem_nil

theorem check_only (ht : t.check = .ok ()) (hm : m ∈ t.mappings) : (t.only m).check = .ok () :=
  check_sublist ht (List.singleton_sublist.mpr hm)

theorem failures_flatMap (t : Template) (c : Catalogue) (facts : Json) :
    t.failures c facts = t.mappings.flatMap fun m => (t.only m).failures c facts := by
  unfold failures
  rw [List.filterMap_eq_flatMap_toList]
  apply List.flatMap_congr
  intro m _
  simp only [only, withMappings, List.filterMap_cons, List.filterMap_nil]
  cases m.apply c facts <;> rfl

end Template

namespace Engine

/-- The failures of mappings that are reported in place of a payload. -/
def reported (e : Engine) (lead : Lead) (buyer : Buyer) (withEvidence : Bool) (now : Instant)
    (t : Template) : List MappingFailure :=
  match e.payload lead buyer t withEvidence now with
  | .ok _ => []
  | .error err => err.failures

variable {e : Engine} {lead : Lead} {buyer : Buyer} {t : Template} {withEvidence : Bool}
  {now : Instant}

theorem payload_eq_mappings_iff_reported {fs : List MappingFailure} :
    e.payload lead buyer t withEvidence now = .error (.mappings fs) ↔
      fs ≠ [] ∧ e.reported lead buyer withEvidence now t = fs := by
  constructor
  · intro h
    obtain ⟨-, -, -, facts, -, hmapped⟩ := payload_eq_mappings_iff.mp h
    exact ⟨(Template.mapped_eq_error_iff.mp hmapped).1, by rw [reported, h]; rfl⟩
  · rintro ⟨hne, hfs⟩
    unfold reported at hfs
    split at hfs
    · exact absurd hfs.symm hne
    · rename_i err h
      cases err with
      | mappings fs' => exact h.trans (congrArg _ (congrArg _ hfs))
      | invalid | configuration | hook | brokenOff => exact absurd hfs.symm hne

theorem reported_ne_nil_iff : e.reported lead buyer withEvidence now t ≠ [] ↔
    ∃ fs, e.payload lead buyer t withEvidence now = .error (.mappings fs) := by
  simp only [payload_eq_mappings_iff_reported]
  constructor
  · exact fun h => ⟨_, h, rfl⟩
  · rintro ⟨fs, hne, rfl⟩
    exact hne

/-- Whatever the template, its mappings read the same facts, or are not reached at all. -/
theorem exists_reported (e : Engine) (lead : Lead) (buyer : Buyer) (withEvidence : Bool)
    (now : Instant) :
    (∃ facts, ∀ t : Template, t.check = .ok () →
      (e.payload lead buyer t withEvidence now = .error .brokenOff ↔
        t.breaksOff e.catalogue facts = true) ∧
      (t.breaksOff e.catalogue facts = false →
        e.reported lead buyer withEvidence now t = t.failures e.catalogue facts)) ∨
    ∀ t, e.payload lead buyer t withEvidence now ≠ .error .brokenOff ∧
      e.reported lead buyer withEvidence now t = [] := by
  by_cases hreached : lead.check = .ok () ∧ buyer.check = .ok () ∧
      ∃ facts, e.before buyer.id (lead.facts now) = .ok facts
  · obtain ⟨hlead, hbuyer, facts, hfacts⟩ := hreached
    refine .inl ⟨.object facts, fun t ht => ⟨?_, fun hbreaks => ?_⟩⟩
    · rw [payload_eq_brokenOff_iff]
      constructor
      · rintro ⟨-, -, -, facts', hfacts', hmapped⟩
        cases hfacts.symm.trans hfacts'
        exact Template.mapped_eq_brokenOff_iff.mp hmapped
      · intro hbreaks
        exact ⟨hlead, hbuyer, ht, facts, hfacts, Template.mapped_eq_brokenOff_iff.mpr hbreaks⟩
    by_cases hne : t.failures e.catalogue (.object facts) = []
    · rw [hne]
      by_contra hreported
      obtain ⟨fs, h⟩ := reported_ne_nil_iff.mp hreported
      obtain ⟨-, -, -, facts', hfacts', hmapped⟩ := payload_eq_mappings_iff.mp h
      cases hfacts.symm.trans hfacts'
      obtain ⟨hfs, hfailures, -⟩ := Template.mapped_eq_error_iff.mp hmapped
      exact hfs (hfailures.symm.trans hne)
    · refine (payload_eq_mappings_iff_reported.mp (payload_eq_mappings_iff.mpr ?_)).2
      exact ⟨hlead, hbuyer, ht, facts, hfacts,
        Template.mapped_eq_error_iff.mpr ⟨hne, rfl, hbreaks⟩⟩
  · refine .inr fun t => ⟨fun h => ?_, ?_⟩
    · obtain ⟨hlead, hbuyer, -, facts, hfacts, -⟩ := payload_eq_brokenOff_iff.mp h
      exact hreached ⟨hlead, hbuyer, facts, hfacts⟩
    · by_contra hreported
      obtain ⟨fs, h⟩ := reported_ne_nil_iff.mp hreported
      obtain ⟨hlead, hbuyer, -, facts, hfacts, -⟩ := payload_eq_mappings_iff.mp h
      exact hreached ⟨hlead, hbuyer, facts, hfacts⟩

/-- A template breaks off just when one of its mappings does alone. -/
theorem payload_eq_brokenOff_iff_only (ht : t.check = .ok ()) :
    e.payload lead buyer t withEvidence now = .error .brokenOff ↔
      ∃ m ∈ t.mappings, e.payload lead buyer (t.only m) withEvidence now = .error .brokenOff := by
  rcases e.exists_reported lead buyer withEvidence now with ⟨facts, h⟩ | h
  · rw [(h t ht).1, Template.breaksOff_iff]
    refine exists_congr fun m => and_congr_right fun hm => ?_
    rw [(h _ (Template.check_only ht hm)).1, Template.breaksOff_iff]
    simp [Template.only, Template.withMappings]
  · refine iff_of_false (h t).1 ?_
    rintro ⟨m, -, hm⟩
    exact (h _).1 hm

theorem reported_flatMap (ht : t.check = .ok ())
    (hbreaks : ∀ m ∈ t.mappings,
      e.payload lead buyer (t.only m) withEvidence now ≠ .error .brokenOff) :
    e.reported lead buyer withEvidence now t =
      t.mappings.flatMap fun m => e.reported lead buyer withEvidence now (t.only m) := by
  have hkept (t : Template) {facts : Json} (h : e.payload lead buyer t withEvidence now ≠
        .error .brokenOff)
      (hiff : e.payload lead buyer t withEvidence now = .error .brokenOff ↔
        t.breaksOff e.catalogue facts = true) : t.breaksOff e.catalogue facts = false :=
    (Bool.not_eq_true _).mp (mt hiff.mpr h)
  rcases e.exists_reported lead buyer withEvidence now with ⟨facts, h⟩ | h
  · have hwhole : e.payload lead buyer t withEvidence now ≠ .error .brokenOff := by
      rw [ne_eq, payload_eq_brokenOff_iff_only ht]
      exact fun ⟨m, hm, hbroken⟩ => hbreaks m hm hbroken
    obtain ⟨hbroken, hreported⟩ := h t ht
    rw [hreported (hkept t hwhole hbroken), t.failures_flatMap]
    apply List.flatMap_congr
    intro m hm
    obtain ⟨hbroken, hreported⟩ := h _ (Template.check_only ht hm)
    exact (hreported (hkept _ (hbreaks m hm) hbroken)).symm
  · simp [h]

/-- **The failures of mappings are reported one by one, unless one of them breaks off.** A template
breaks off just when one of its mappings does alone. It fails by its mappings just when one of them
fails alone and none breaks off, and then with the failures of each of them alone, in their order.
When a mapping is put in the place of another and neither breaks off, all that changes is what
stands in this place. No mapping breaks off where all layouts can be written. -/
theorem payload_failures (e : Engine) (lead : Lead) (buyer : Buyer) (t : Template)
    (withEvidence : Bool) (now : Instant) (ht : t.check = .ok ()) :
    (e.payload lead buyer t withEvidence now = .error .brokenOff ↔
      ∃ m ∈ t.mappings, e.payload lead buyer (t.only m) withEvidence now = .error .brokenOff) ∧
    ((∃ fs, e.payload lead buyer t withEvidence now = .error (.mappings fs)) ↔
      (∃ m ∈ t.mappings, ∃ fs,
        e.payload lead buyer (t.only m) withEvidence now = .error (.mappings fs)) ∧
      ∀ m ∈ t.mappings, e.payload lead buyer (t.only m) withEvidence now ≠ .error .brokenOff) ∧
    (∀ fs, e.payload lead buyer t withEvidence now = .error (.mappings fs) →
      fs = t.mappings.flatMap fun m => e.reported lead buyer withEvidence now (t.only m)) ∧
    (∀ front m back m', t.mappings = front ++ m :: back →
      (t.withMappings (front ++ m' :: back)).check = .ok () →
      (∀ k ∈ m' :: t.mappings,
        e.payload lead buyer (t.only k) withEvidence now ≠ .error .brokenOff) →
      let alone := fun k => e.reported lead buyer withEvidence now (t.only k)
      e.reported lead buyer withEvidence now t =
        front.flatMap alone ++ (alone m ++ back.flatMap alone) ∧
      e.reported lead buyer withEvidence now (t.withMappings (front ++ m' :: back)) =
        front.flatMap alone ++ (alone m' ++ back.flatMap alone)) ∧
    (e.catalogue = .standard → t.isWritable = true →
      ∀ m ∈ t.mappings,
        e.payload lead buyer (t.only m) withEvidence now ≠ .error .brokenOff) := by
  have hbroken : e.payload lead buyer t withEvidence now = .error .brokenOff ↔ ∃ m ∈ t.mappings,
      e.payload lead buyer (t.only m) withEvidence now = .error .brokenOff :=
    payload_eq_brokenOff_iff_only ht
  have hnone {fs : List MappingFailure}
      (h : e.payload lead buyer t withEvidence now = .error (.mappings fs)) :
      ∀ m ∈ t.mappings,
        e.payload lead buyer (t.only m) withEvidence now ≠ .error .brokenOff := by
    intro m hm hbreaks
    cases h.symm.trans (hbroken.mpr ⟨m, hm, hbreaks⟩)
  refine ⟨hbroken, ⟨?_, ?_⟩, ?_, ?_, ?_⟩
  · rintro ⟨fs, h⟩
    refine ⟨?_, hnone h⟩
    obtain ⟨hne, hfs⟩ := payload_eq_mappings_iff_reported.mp h
    rw [reported_flatMap ht (hnone h)] at hfs
    obtain ⟨f, hf⟩ := List.exists_mem_of_ne_nil _ hne
    obtain ⟨m, hm, hf⟩ := List.mem_flatMap.mp (hfs ▸ hf)
    exact ⟨m, hm, reported_ne_nil_iff.mp (List.ne_nil_of_mem hf)⟩
  · rintro ⟨⟨m, hm, hfails⟩, hkept⟩
    rw [← reported_ne_nil_iff] at hfails ⊢
    rw [reported_flatMap ht hkept]
    exact fun hnil => hfails (List.flatMap_eq_nil_iff.mp hnil m hm)
  · intro fs h
    rw [← (payload_eq_mappings_iff_reported.mp h).2]
    exact reported_flatMap ht (hnone h)
  · intro front m back m' hmappings ht' hkept alone
    obtain ⟨hkept', hkept⟩ := List.forall_mem_cons.mp hkept
    constructor
    · rw [reported_flatMap ht hkept, hmappings, List.flatMap_append, List.flatMap_cons]
    · refine (reported_flatMap ht' fun k hk => ?_).trans
        (List.flatMap_append.trans (congrArg _ List.flatMap_cons))
      rcases List.mem_append.mp hk with hk | hk
      · exact hkept k (hmappings ▸ List.mem_append_left _ hk)
      · rcases List.mem_cons.mp hk with rfl | hk
        · exact hkept'
        · exact hkept k (hmappings ▸ List.mem_append_right _ (List.mem_cons_of_mem m hk))
  · intro hcatalogue hwritable m hm
    have hone : (t.only m).isWritable = true :=
      List.all_eq_true.mpr fun k hk =>
        List.all_eq_true.mp hwritable k (List.mem_singleton.mp hk ▸ hm)
    exact payload_ne_brokenOff (hcatalogue ▸ Template.breaksOff_eq_false hone)

end Engine

namespace Sample

/-- An address that must be there, and is not among the answers of the lead. -/
def email : Mapping := ⟨"email", "contact.email", none, true, none, none, none⟩

/-- The age of the lead by a transform that there is not. -/
def windows : Mapping :=
  ⟨"leadAgeMinutes", "windows", some (.named "service.bogus"), false, none, none, none⟩

/-- The failures of mappings that are reported for the lead. -/
def report (ms : List Mapping) : List MappingFailure :=
  Engine.standard.reported lead (buyer .standard) true ⟨5, 0⟩ (template ms)

/-- How the two mappings fail. -/
def faults : List MappingFailure := [
  ⟨"email", "contact.email", .invalid ⟨"email", .requiredMissing "contact.email"⟩⟩,
  ⟨"leadAgeMinutes", "windows", .transform (.unknown "service.bogus")⟩]

theorem mappings_template (ms : List Mapping) : (template ms).mappings = ms := rfl

theorem reported_only (ms : List Mapping) (m : Mapping) :
    Engine.standard.reported lead (buyer .standard) true ⟨5, 0⟩ ((template ms).only m) =
      report [m] :=
  rfl

end Sample

open Sample in
set_option maxRecDepth 10000 in
/-- Two of three mappings fail; when the first of them is repaired, the other one still fails. -/
theorem Engine.payload_failures_sample :
    (template [email, owner "home", windows]).check = .ok () ∧
      (template ([] ++ age "contact.age" :: [owner "home", windows])).check = .ok () ∧
      reshaped [email, owner "home", windows] = .error (.mappings faults) ∧
      report ([] ++ age "contact.age" :: [owner "home", windows]) = faults.tail := by
  have hkept : ∀ m ∈ [email, age "contact.age"],
      (template [m, owner "home", windows]).check.isOk = true := by decide
  obtain ⟨⟨⟩, hflawed⟩ := exists_of_isOk (hkept _ List.mem_cons_self)
  obtain ⟨⟨⟩, hrepaired⟩ := exists_of_isOk (hkept _ (List.mem_cons_of_mem _ List.mem_cons_self))
  have hemail : report [email] = faults.take 1 := by decide +kernel
  have hage : report [age "contact.age"] = [] := by decide +kernel
  have howner : report [owner "home"] = [] := by decide +kernel
  have hwindows : report [windows] = faults.tail := by decide +kernel
  obtain ⟨-, hfails, hall, hplace, hwritable⟩ := payload_failures .standard lead (buyer .standard)
    (template [email, owner "home", windows]) true ⟨5, 0⟩ hflawed
  have hkept := hwritable Engine.standard_catalogue (by decide +kernel)
  refine ⟨hflawed, hrepaired, ?_, ?_⟩
  · have hne : report [email] ≠ [] := hemail.trans_ne (List.cons_ne_nil _ _)
    obtain ⟨fs, hfs⟩ :=
      hfails.mpr ⟨⟨email, List.mem_cons_self, reported_ne_nil_iff.mp hne⟩, hkept⟩
    have hlist := hall fs hfs
    simp only [mappings_template, reported_only, List.flatMap_cons, List.flatMap_nil, hemail,
      howner, hwindows] at hlist
    exact hfs.trans (congrArg _ (congrArg _ hlist))
  · have hrepairs : (reshaped [age "contact.age"]).isOk = true := by decide +kernel
    obtain ⟨p, hp⟩ := exists_of_isOk hrepairs
    have hkept' : reshaped [age "contact.age"] ≠ .error .brokenOff := hp.trans_ne nofun
    have hlist := (hplace [] email _ (age "contact.age") rfl hrepaired
      (List.forall_mem_cons.mpr ⟨hkept', hkept⟩)).2
    simp only [reported_only, List.flatMap_cons, List.flatMap_nil, hage, howner, hwindows] at hlist
    exact hlist

end PingPost
