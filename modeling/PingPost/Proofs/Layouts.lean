import PingPost.Proofs.MappingOrder

/-!
Which templates break off.

The layout of a date may ask for an offset in any form, which can be read and not written
(`Layout.render?_eq_none_iff`). A transform that is to write a date so breaks off, and no other of
the built-in transforms ever does (`Catalogue.apply_eq_broken_iff`). So a template in which no
layout asks for such an offset gives a payload or reports why there is none, whatever the lead
(`Template.breaksOff_eq_false`).
-/

namespace PingPost

/-- Whether a transform always gives a value or refuses one. -/
def Transform.Answers (f : Transform) : Prop := ∀ v args, f v args ≠ .error .breakOff

namespace Transform

/-- What is not read from a value is refused. -/
theorem lift_bind_ne {α : Type} {r : Except String α} {k : α → Except TransformFault Json}
    (h : ∀ a, k a ≠ .error .breakOff) :
    ((liftM r : Except TransformFault α) >>= k) ≠ .error .breakOff := by
  cases r with
  | error reason => exact nofun
  | ok a => exact h a

theorem liftM_ok_bind {α : Type} {a : α} {k : α → Except TransformFault Json} :
    ((liftM (Except.ok a : Except String α) : Except TransformFault α) >>= k) = k a :=
  rfl

theorem inLayout_eq_breakOff_iff {items : List Layout.Item} {v : Json} {args : List Json} :
    inLayout items v args = .error .breakOff ↔
      Layout.Item.anyOffset ∈ items ∧ ∃ t, instant v = .ok t := by
  cases hdate : instant v with
  | error reason =>
    have hrefused : inLayout items v args = .error (.refusal reason) := by
      unfold inLayout
      rw [hdate]
      rfl
    rw [hrefused]
    exact iff_of_false nofun nofun
  | ok t =>
    cases hwritten : Layout.render? items t with
    | none =>
      have hbroken : inLayout items v args = .error .breakOff := by
        simp only [inLayout, hdate, liftM_ok_bind, hwritten]
        rfl
      exact iff_of_true hbroken ⟨Layout.render?_eq_none_iff.mp hwritten, t, rfl⟩
    | some s =>
      have hgiven : inLayout items v args = .ok (.text s) := by
        simp only [inLayout, hdate, liftM_ok_bind, hwritten]
        rfl
      rw [hgiven]
      refine iff_of_false nofun fun h => ?_
      rw [Layout.render?_eq_none_iff.mpr h.1] at hwritten
      cases hwritten

theorem inLayout_answers {items : List Layout.Item} (h : Layout.Item.anyOffset ∉ items) :
    (inLayout items).Answers :=
  fun _ _ hbreaks => h (inLayout_eq_breakOff_iff.mp hbreaks).1

theorem choose_answers (yes no : Json) : (choose yes no).Answers :=
  fun _ _ => lift_bind_ne fun _ => nofun

theorem reword_answers (table : List (List String × String)) : (reword table).Answers := by
  intro v args
  unfold reword
  dsimp only
  split <;> exact nofun

theorem phoneE164_answers : phoneE164.Answers := by
  intro v args
  unfold phoneE164
  dsimp only
  split
  · exact nofun
  · split <;> exact nofun

theorem emailNormalize_answers : emailNormalize.Answers := by
  intro v args
  unfold emailNormalize
  dsimp only
  split <;> exact nofun

theorem emailDomain_answers : emailDomain.Answers := by
  intro v args
  unfold emailDomain
  dsimp only
  split <;> exact nofun

theorem zip5_answers : zip5.Answers := by
  intro v args
  unfold zip5
  dsimp only
  split <;> exact nofun

theorem stateCode_answers : stateCode.Answers := by
  intro v args
  unfold stateCode
  dsimp only
  split <;> exact nofun

theorem certUrl_answers : certUrl.Answers := by
  intro v args
  unfold certUrl
  split
  · exact nofun
  · split <;> exact nofun

theorem ipAddress_answers : ipAddress.Answers := by
  intro v args
  unfold ipAddress
  dsimp only
  split <;> exact nofun

theorem windowsCount_answers : windowsCount.Answers := by
  refine fun v args => lift_bind_ne fun x => ?_
  dsimp only
  split
  · exact nofun
  · split
    · exact nofun
    · split
      · exact nofun
      · split <;> exact nofun

theorem equals_answers : equals.Answers := by
  intro v args
  unfold equals
  split <;> exact nofun

theorem dateFormat_eq_breakOff_iff {v : Json} {args : List Json} :
    dateFormat v args = .error .breakOff ↔ ∃ layout rest items t, args = .text layout :: rest ∧
      Layout.ofText? layout = some items ∧ Layout.Item.anyOffset ∈ items ∧
      instant v = .ok t := by
  unfold dateFormat
  split
  · rename_i layout rest
    cases hitems : Layout.ofText? layout with
    | none => exact iff_of_false nofun (by rintro ⟨_, _, _, _, ⟨⟩, hsome, -⟩; simp_all)
    | some items =>
      dsimp only
      rw [inLayout_eq_breakOff_iff]
      constructor
      · rintro ⟨hmem, t, ht⟩
        exact ⟨layout, rest, items, t, rfl, hitems, hmem, ht⟩
      · rintro ⟨_, _, _, t, ⟨⟩, hsome, hmem, ht⟩
        cases hitems.symm.trans hsome
        exact ⟨hmem, t, ht⟩
  · rename_i hnone
    exact iff_of_false nofun (by rintro ⟨layout, rest, -, -, rfl, -⟩; exact hnone layout rest rfl)

end Transform

/-! ### The catalogue -/

namespace Catalogue

open Transform

/-- Of the built-in transforms only one may break off. -/
theorem answers_of_get? {name : String} {f : Transform} (hget : Table.get? name standard = some f)
    (hname : name ≠ "date.format") : f.Answers := by
  rw [standard, Table.get?_ofList] at hget
  have hmem := List.mem_reverse.mp (Table.mem_of_get? hget)
  have hplain {g : Json → List Json → Json} : Answers fun v args => .ok (g v args) :=
    fun _ _ => nofun
  have hread {α : Type} {r : Json → List Json → Except String α} {g : Json → List Json → α → Json} :
      Answers fun v args => liftM (r v args) >>= fun a => pure (g v args a) :=
    fun _ _ => lift_bind_ne fun _ => nofun
  have hround : round.Answers :=
    fun _ _ => lift_bind_ne fun _ => lift_bind_ne fun _ => nofun
  simp only [List.mem_cons, Prod.mk.injEq, List.not_mem_nil, or_false] at hmem
  rcases hmem with
    ⟨-, rfl⟩ | ⟨-, rfl⟩ | ⟨-, rfl⟩ | ⟨-, rfl⟩ | ⟨-, rfl⟩ | ⟨-, rfl⟩ | ⟨-, rfl⟩ |
    ⟨-, rfl⟩ | ⟨-, rfl⟩ | ⟨-, rfl⟩ | ⟨-, rfl⟩ | ⟨-, rfl⟩ |
    ⟨-, rfl⟩ | ⟨-, rfl⟩ | ⟨-, rfl⟩ | ⟨-, rfl⟩ | ⟨-, rfl⟩ |
    ⟨-, rfl⟩ | ⟨-, rfl⟩ | ⟨-, rfl⟩ | ⟨-, rfl⟩ | ⟨hformat, -⟩ |
    ⟨-, rfl⟩ | ⟨-, rfl⟩ | ⟨-, rfl⟩ | ⟨-, rfl⟩ | ⟨-, rfl⟩ | ⟨-, rfl⟩ | ⟨-, rfl⟩ | ⟨-, rfl⟩ |
    ⟨-, rfl⟩ | ⟨-, rfl⟩ | ⟨-, rfl⟩ | ⟨-, rfl⟩ |
    ⟨-, rfl⟩ | ⟨-, rfl⟩ | ⟨-, rfl⟩ | ⟨-, rfl⟩ | ⟨-, rfl⟩ | ⟨-, rfl⟩
  exacts [hplain, hplain, hplain, hplain, hread, hplain, hplain,
    hread, hround, hread, hread, hread,
    choose_answers _ _, choose_answers _ _, choose_answers _ _, choose_answers _ _,
    choose_answers _ _,
    hread, inLayout_answers (by decide), hread, inLayout_answers (by decide), (hname hformat).elim,
    hread, phoneE164_answers, hread, hread, emailNormalize_answers, emailDomain_answers,
    zip5_answers, stateCode_answers,
    windowsCount_answers, reword_answers _, choose_answers _ _, reword_answers _,
    choose_answers _ _, certUrl_answers, ipAddress_answers, hplain, equals_answers, hplain]

/-- **A built-in transform breaks off just when it is to write a date in a layout that asks for an
offset in any form.** -/
theorem apply_eq_broken_iff {spec : TransformSpec} {v : Json} :
    standard.apply spec v = .error .broken ↔ spec.name = "date.format" ∧
      ∃ layout rest items t, spec.args = .text layout :: rest ∧
        Layout.ofText? layout = some items ∧ Layout.Item.anyOffset ∈ items ∧
        Transform.instant v = .ok t := by
  have hfault (name : String) (fault : TransformFault) :
      TransformError.ofFault name fault = .broken ↔ fault = .breakOff := by
    cases fault <;> simp [TransformError.ofFault]
  have hformat : Table.get? "date.format" standard = some dateFormat :=
    (Table.get?_ofList ..).trans rfl
  unfold apply
  cases hget : Table.get? spec.name standard with
  | none =>
    refine iff_of_false nofun fun h => ?_
    rw [h.1, hformat] at hget
    cases hget
  | some f =>
    dsimp only
    rw [mapError_eq_error_iff]
    by_cases hname : spec.name = "date.format"
    · rw [hname, hformat] at hget
      cases hget
      simp only [hfault, hname, exists_eq_right, true_and, dateFormat_eq_breakOff_iff]
    · refine iff_of_false ?_ fun h => hname h.1
      rintro ⟨fault, hf, hbroken⟩
      rw [(hfault _ _).mp hbroken] at hf
      exact answers_of_get? hget hname v spec.args hf

end Catalogue

/-! ### Templates -/

/-- Whether no layout of a transform asks for an offset in any form. -/
def TransformSpec.isWritable (spec : TransformSpec) : Bool :=
  match spec.args with
  | .text layout :: _ =>
    spec.name ≠ "date.format" || (Layout.ofText? layout).all fun items => !items.contains .anyOffset
  | _ => true

/-- Whether no layout in a template asks for an offset in any form. -/
def Template.isWritable (t : Template) : Bool :=
  t.mappings.all fun m => m.transform.all TransformSpec.isWritable

/-- Whether the transform of a mapping breaks off. -/
def Mapping.BreaksOff (m : Mapping) (c : Catalogue) (facts : Json) : Prop :=
  m.value c facts = .error (.transform .broken)

theorem TransformSpec.apply_ne_broken {spec : TransformSpec} (h : spec.isWritable = true)
    (v : Json) : Catalogue.standard.apply spec v ≠ .error .broken := by
  intro hbroken
  obtain ⟨hname, layout, rest, items, t, hargs, hitems, hmem, -⟩ :=
    Catalogue.apply_eq_broken_iff.mp hbroken
  simp [isWritable, hargs, hname, hitems, hmem] at h

/-- Where a mapping breaks off, its transform does. -/
theorem Mapping.BreaksOff.exists_apply {m : Mapping} {c : Catalogue} {facts : Json}
    (h : m.BreaksOff c facts) :
    ∃ spec v, m.transform = some spec ∧ c.apply spec v = .error .broken := by
  unfold BreaksOff value at h
  split at h
  · split at h <;> cases h
  rename_i v _
  -- What comes before the transform gives the value, or a fault of another kind.
  have hsome (spec : TransformSpec) (h : ((c.apply spec (m.substitute v)).mapError
      MappingFault.transform >>= fun w => pure (some w)) = .error (.transform .broken)) :
      c.apply spec (m.substitute v) = .error .broken := by
    simpa only [bind_eq_error_iff, mapError_eq_error_iff, pure, Except.pure, reduceCtorEq,
      and_false, exists_false, or_false, MappingFault.transform.injEq, exists_eq_right] using h
  cases hspec : m.transform with
  | none =>
    simp only [hspec] at h
    split at h
    · split at h <;> cases h
    split at h
    · rename_i rule _
      cases hrule : rule.check m.source v <;> rw [hrule] at h <;> cases h
    · cases h
  | some spec =>
    refine ⟨spec, m.substitute v, rfl, hsome spec ?_⟩
    simp only [hspec] at h
    split at h
    · split at h
      · cases h
      · exact h
    split at h
    · rename_i rule _
      cases hrule : rule.check m.source v with
      | error e =>
        rw [hrule] at h
        cases h
      | ok _ =>
        rw [hrule] at h
        exact h
    · exact h

/-- A mapping that is to write a date in a layout that asks for an offset in any form breaks off. -/
theorem Mapping.breaksOff_of_layout {m : Mapping} {facts v : Json} {layout : String}
    {items : List Layout.Item} {t : Instant}
    (htransform : m.transform = some (.withArgs "date.format" [.text layout]))
    (hwords : m.words = none) (hrule : m.rule = none) (hrequired : m.required = false)
    (hfact : m.resolve? facts = some v) (hdate : Transform.instant v = .ok t)
    (hitems : Layout.ofText? layout = some items) (hmem : Layout.Item.anyOffset ∈ items) :
    m.BreaksOff .standard facts := by
  have hbroken : Catalogue.standard.apply (.withArgs "date.format" [.text layout]) v =
      .error .broken :=
    Catalogue.apply_eq_broken_iff.mpr ⟨rfl, layout, [], items, t, rfl, hitems, hmem, hdate⟩
  have hsame : m.substitute v = v := by
    unfold substitute
    rw [hwords]
  unfold BreaksOff value
  simp only [hfact, hrequired, hrule, hsame, htransform, hbroken]
  cases v.isMissing <;> rfl

namespace Template

variable {t : Template} {c : Catalogue} {facts : Json}

theorem breaksOff_iff : t.breaksOff c facts = true ↔ ∃ m ∈ t.mappings, m.BreaksOff c facts := by
  rw [breaksOff_eq_true_iff]
  constructor
  · rintro ⟨f, hf, hbreak⟩
    obtain ⟨m, hm, hfails⟩ := List.mem_filterMap.mp hf
    refine ⟨m, hm, ?_⟩
    unfold Mapping.apply at hfails
    cases hvalue : m.value c facts with
    | ok v => simp [hvalue] at hfails
    | error fault =>
      simp only [hvalue, Option.some.injEq] at hfails
      subst hfails
      exact hvalue.trans (congrArg _ (of_decide_eq_true hbreak))
  · rintro ⟨m, hm, hbreaks⟩
    have hfails : m.apply c facts = .error ⟨m.source, m.target, .transform .broken⟩ := by
      unfold Mapping.apply
      rw [hbreaks]
    exact ⟨_, List.mem_filterMap.mpr ⟨m, hm, by rw [hfails]⟩, rfl⟩

/-- A template without such a layout never breaks off. -/
theorem breaksOff_eq_false (h : t.isWritable = true) (facts : Json) :
    t.breaksOff .standard facts = false := by
  rw [← Bool.not_eq_true, breaksOff_iff]
  rintro ⟨m, hm, hbreaks⟩
  obtain ⟨spec, v, hspec, hbroken⟩ := Mapping.BreaksOff.exists_apply hbreaks
  have hwritable := List.all_eq_true.mp h m hm
  rw [hspec] at hwritable
  exact TransformSpec.apply_ne_broken hwritable v hbroken

end Template

/-- One mapping that breaks off breaks the payload off. -/
theorem Engine.payload_of_breaksOff {e : Engine} {lead : Lead} {buyer : Buyer} {t : Template}
    {withEvidence : Bool} {now : Instant} {facts : Fields} {m : Mapping}
    (hlead : lead.check = .ok ()) (hbuyer : buyer.check = .ok ()) (ht : t.check = .ok ())
    (hfacts : e.before buyer.id (lead.facts now) = .ok facts) (hm : m ∈ t.mappings)
    (h : m.BreaksOff e.catalogue (.object facts)) :
    e.payload lead buyer t withEvidence now = .error .brokenOff :=
  payload_eq_brokenOff_iff.mpr ⟨hlead, hbuyer, ht, facts, hfacts,
    Template.mapped_eq_brokenOff_iff.mpr (Template.breaksOff_iff.mpr ⟨m, hm, h⟩)⟩

/-- A template that never breaks off breaks no payload off. -/
theorem Engine.payload_ne_brokenOff {e : Engine} {lead : Lead} {buyer : Buyer} {t : Template}
    {withEvidence : Bool} {now : Instant}
    (h : ∀ facts, t.breaksOff e.catalogue facts = false) :
    e.payload lead buyer t withEvidence now ≠ .error .brokenOff := by
  intro hbroken
  obtain ⟨-, -, -, facts, -, hmapped⟩ := Engine.payload_eq_brokenOff_iff.mp hbroken
  have hbreaks := Template.mapped_eq_brokenOff_iff.mp hmapped
  rw [h] at hbreaks
  cases hbreaks

end PingPost
