import Mathlib.Data.List.Pairwise
import PingPost.Proofs.Paths
import PingPost.Proofs.Payload
import PingPost.Proofs.Sample

/-!
The order of a template's mappings.

Every mapping reads the facts of the lead on its own, so templates with the same mappings in
another order fail with the same failures. What the mappings write does depend on the order, but
only where one target leads through another: `Template.check` refuses a target that is there twice,
and not a target below another one (`Engine.payload_order_matters`). If all targets are apart
(`Template.TargetsApart`), the order does not matter (`Engine.payload_perm`).
-/

namespace PingPost

/-- The template with some other mappings. -/
def Template.withMappings (t : Template) (ms : List Mapping) : Template := { t with mappings := ms }

/-- No target of a template leads through the target of another mapping. -/
def Template.TargetsApart (t : Template) : Prop :=
  t.mappings.Pairwise fun m m' => Json.Apart m.target m'.target

instance (t : Template) : Decidable t.TargetsApart :=
  inferInstanceAs (Decidable (t.mappings.Pairwise _))

variable {t : Template} {ms : List Mapping} {c : Catalogue} {facts : Json}

/-! ### The check of a template -/

/-- Whether a mapping is in order, wherever it stands. -/
def Mapping.isSound (m : Mapping) : Bool :=
  !Text.isBlankText m.source && !Text.isBlankText m.target &&
    (m.rule.bind (·.pattern)).all fun pattern => (Pattern.ofText? pattern).isSome

theorem Mapping.check_eq_ok_iff {m : Mapping} {index : Nat} {taken : List String} :
    m.check index taken = .ok () ↔ m.isSound = true ∧ m.target ∉ taken := by
  unfold check isSound
  generalize m.rule.bind (·.pattern) = pattern
  split
  · simp_all
  split
  · simp_all
  split
  · simp_all
  · cases pattern with
    | none => simp_all
    | some pattern => cases hread : Pattern.ofText? pattern <;> simp_all

theorem Template.checkFrom_eq_ok_iff {index : Nat} {taken : List String} :
    checkFrom index taken ms = .ok () ↔
      (∀ m ∈ ms, m.isSound = true) ∧ (ms.map (·.target)).Nodup ∧ ∀ m ∈ ms, m.target ∉ taken := by
  induction ms generalizing index taken with
  | nil => exact iff_of_true rfl ⟨by simp, .nil, by simp⟩
  | cons m ms ih =>
    have hcons : checkFrom index taken (m :: ms) = .ok () ↔
        m.check index taken = .ok () ∧ checkFrom (index + 1) (m.target :: taken) ms = .ok () := by
      rw [checkFrom, bind_eq_ok_iff]
      exact ⟨fun ⟨_, h⟩ => h, fun h => ⟨(), h⟩⟩
    rw [hcons, Mapping.check_eq_ok_iff, ih]
    simp only [List.map_cons, List.nodup_cons, List.mem_map, List.mem_cons]
    grind

/-- The order of the mappings does not matter to the check. -/
theorem Template.check_perm (hperm : t.mappings.Perm ms) :
    t.check = .ok () ↔ (t.withMappings ms).check = .ok () := by
  simp only [check, withMappings, checkFrom_eq_ok_iff, hperm.mem_iff,
    (hperm.map (·.target)).nodup_iff]

/-! ### What the mappings write -/

/-- A mapping writes to its target. -/
theorem Mapping.target_of_apply {m : Mapping} {w : String × Json}
    (h : m.apply c facts = .ok (some w)) : w.1 = m.target := by
  unfold apply at h
  split at h
  · cases h
  · rename_i v _
    cases v <;> cases h
    rfl

namespace Template

theorem failures_perm (hperm : t.mappings.Perm ms) :
    (t.failures c facts).Perm ((t.withMappings ms).failures c facts) :=
  hperm.filterMap _

theorem breaksOff_perm (hperm : t.mappings.Perm ms) :
    (t.withMappings ms).breaksOff c facts = t.breaksOff c facts :=
  (failures_perm hperm).symm.any_eq

theorem writes_perm (hperm : t.mappings.Perm ms) :
    (t.writes c facts).Perm ((t.withMappings ms).writes c facts) :=
  hperm.filterMap _

theorem requiredTargets_perm (hperm : t.mappings.Perm ms) :
    t.requiredTargets.Perm (t.withMappings ms).requiredTargets :=
  (hperm.filter _).map _

theorem writes_apart (h : t.TargetsApart) :
    (t.writes c facts).Pairwise fun w w' => Json.Apart w.1 w'.1 := by
  refine List.Pairwise.filterMap _ (fun m m' hapart w hw w' hw' => ?_) h
  split at hw
  · cases hw
  split at hw'
  · cases hw'
  subst hw hw'
  rw [Mapping.target_of_apply ‹_›, Mapping.target_of_apply ‹_›]
  exact hapart

theorem breaksOff_eq_true_iff :
    t.breaksOff c facts = true ↔ ∃ f ∈ t.failures c facts, f.isBreak = true :=
  List.any_eq_true

theorem mapped_eq_ok_iff {payload : Fields} :
    t.mapped c facts = .ok payload ↔ t.failures c facts = [] ∧
      (t.writes c facts).foldl (fun payload w => Json.insert payload w.1 w.2) [] = payload := by
  unfold mapped
  split
  · rename_i hbreaks
    obtain ⟨f, hf, -⟩ := breaksOff_eq_true_iff.mp hbreaks
    exact iff_of_false nofun fun h => List.not_mem_nil (h.1 ▸ hf)
  · split <;> simp_all

theorem mapped_eq_error_iff {fs : List MappingFailure} :
    t.mapped c facts = .error (.mappings fs) ↔
      fs ≠ [] ∧ t.failures c facts = fs ∧ t.breaksOff c facts = false := by
  unfold mapped
  split
  · simp_all
  · split <;> grind

theorem mapped_eq_brokenOff_iff :
    t.mapped c facts = .error .brokenOff ↔ t.breaksOff c facts = true := by
  unfold mapped
  split
  · simp_all
  · split <;> simp_all

/-- Where all targets are apart, the writes commute. -/
theorem mapped_perm (hperm : t.mappings.Perm ms) (hapart : t.TargetsApart) {payload : Fields}
    (h : t.mapped c facts = .ok payload) : (t.withMappings ms).mapped c facts = .ok payload := by
  obtain ⟨hnone, rfl⟩ := mapped_eq_ok_iff.mp h
  let Commutes (w w' : String × Json) : Prop := ∀ payload,
    Json.insert (Json.insert payload w.1 w.2) w'.1 w'.2 =
      Json.insert (Json.insert payload w'.1 w'.2) w.1 w.2
  have : Std.Symm Commutes := ⟨fun w w' h payload => (h payload).symm⟩
  have hcomm : ∀ w ∈ t.writes c facts, ∀ w' ∈ t.writes c facts, Commutes w w' := by
    refine fun w hw w' hw' => List.Pairwise.forall_of_forall (fun _ _ _ => rfl) ?_ hw hw'
    exact (writes_apart hapart).imp fun hw payload => hw.insert_comm payload _ _
  refine mapped_eq_ok_iff.mpr ⟨?_, ?_⟩
  · exact List.perm_nil.mp (hnone ▸ (failures_perm hperm).symm)
  · exact ((writes_perm hperm).foldl_eq' hcomm []).symm

theorem mapped_error_perm (hperm : t.mappings.Perm ms) {fs : List MappingFailure}
    (h : t.mapped c facts = .error (.mappings fs)) :
    ∃ fs', fs.Perm fs' ∧ (t.withMappings ms).mapped c facts = .error (.mappings fs') := by
  obtain ⟨hne, rfl, hbreaks⟩ := mapped_eq_error_iff.mp h
  have hfs : (t.failures c facts).Perm _ := failures_perm hperm
  have hne' : (t.withMappings ms).failures c facts ≠ [] := fun hnil => hne (hnil ▸ hfs).eq_nil
  exact ⟨_, hfs, mapped_eq_error_iff.mpr ⟨hne', rfl, (breaksOff_perm hperm).trans hbreaks⟩⟩

end Template

/-! ### Payloads -/

theorem Payload.check_perm {payload : Fields} {required required' : List String} {limit : Nat}
    (hperm : required.Perm required') :
    check payload required limit = .ok () ↔ check payload required' limit = .ok () := by
  simp only [check_eq_ok_iff, hperm.mem_iff]

/-- **The order of the mappings does not matter**: the failures are the same, and so is the payload
if no target leads through another. -/
theorem Engine.payload_perm (e : Engine) (lead : Lead) (buyer : Buyer) (t : Template)
    (ms : List Mapping) (withEvidence : Bool) (now : Instant) (hperm : t.mappings.Perm ms) :
    (t.TargetsApart → ∀ payload, e.payload lead buyer t withEvidence now = .ok payload →
      e.payload lead buyer (t.withMappings ms) withEvidence now = .ok payload) ∧
    ∀ fs, e.payload lead buyer t withEvidence now = .error (.mappings fs) →
      ∃ fs', fs.Perm fs' ∧
        e.payload lead buyer (t.withMappings ms) withEvidence now = .error (.mappings fs') := by
  constructor
  · intro hapart payload h
    obtain ⟨hlead, hbuyer, ht, facts, mapped, raw, hfacts, hmapped, hraw, hfinish⟩ :=
      payload_eq_ok_iff.mp h
    obtain ⟨hpayload, hcheck⟩ := finish_eq_ok_iff.mp hfinish
    refine payload_eq_ok_iff.mpr ⟨hlead, hbuyer, (Template.check_perm hperm).mp ht, facts, mapped,
      raw, hfacts, Template.mapped_perm hperm hapart hmapped, hraw, finish_eq_ok_iff.mpr ?_⟩
    exact ⟨hpayload, (Payload.check_perm (Template.requiredTargets_perm hperm)).mp hcheck⟩
  · intro fs h
    obtain ⟨hlead, hbuyer, ht, facts, hfacts, hmapped⟩ := payload_eq_mappings_iff.mp h
    obtain ⟨fs', hfs, hmapped'⟩ := Template.mapped_error_perm hperm hmapped
    exact ⟨fs', hfs, payload_eq_mappings_iff.mpr
      ⟨hlead, hbuyer, (Template.check_perm hperm).mp ht, facts, hfacts, hmapped'⟩⟩

namespace Sample

/-- Whether the consumer owns the home. -/
def owner (target : String) : Mapping := ⟨"ownsHome", target, none, false, none, none, none⟩

/-- The age of the lead, which must be in the payload. -/
def age (target : String) : Mapping := ⟨"leadAgeMinutes", target, none, true, none, none, none⟩

/-- The template of some mappings. -/
def template (ms : List Mapping) : Template := ⟨ms, [], none⟩

/-- The payload of the lead by some mappings. -/
def reshaped (ms : List Mapping) : Except TemplateError Fields :=
  Engine.standard.payload lead (buyer .standard) (template ms) true ⟨5, 0⟩

end Sample

open Sample in
set_option maxRecDepth 10000 in
theorem Engine.payload_perm_sample :
    ∃ p, reshaped [owner "home.owned", age "home.age"] = .ok p ∧
      reshaped [age "home.age", owner "home.owned"] = .ok p := by
  have hok : (reshaped [owner "home.owned", age "home.age"]).isOk = true := by decide +kernel
  have hapart : (template [owner "home.owned", age "home.age"]).TargetsApart := by decide
  obtain ⟨p, hp⟩ := exists_of_isOk hok
  have hperm := payload_perm .standard lead (buyer .standard)
    (template [owner "home.owned", age "home.age"]) [age "home.age", owner "home.owned"] true
    ⟨5, 0⟩ (.swap _ _ _)
  exact ⟨p, hp, hperm.1 hapart p hp⟩

open Sample in
set_option maxRecDepth 10000 in
/-- A template that passes the check may give a payload, and no longer do so with its mappings in
another order: what stands below a target is lost when the target itself is written. -/
theorem Engine.payload_order_matters :
    (template [owner "home", age "home.age"]).check.isOk = true ∧
      (reshaped [owner "home", age "home.age"]).isOk = true ∧
      (reshaped [age "home.age", owner "home"]).isOk = false := by
  decide +kernel

end PingPost
