import PingPost.Template.Engine

/-!
How a payload comes about: what each stage must have given for `Engine.payload` to give a payload
(`Engine.payload_eq_ok_iff`), and for it to report failures of mappings or to break off
(`Engine.payload_eq_error_iff`). No stage but the mappings themselves does so.
-/

namespace PingPost

section

variable {ε ε' α β : Type} {r : Except ε α}

theorem bind_eq_ok_iff {f : α → Except ε β} {b : β} :
    (r >>= f) = .ok b ↔ ∃ a, r = .ok a ∧ f a = .ok b := by
  cases r <;> simp [bind, Except.bind]

theorem bind_eq_error_iff {f : α → Except ε β} {e : ε} :
    (r >>= f) = .error e ↔ r = .error e ∨ ∃ a, r = .ok a ∧ f a = .error e := by
  cases r <;> simp [bind, Except.bind]

theorem mapError_eq_ok_iff {f : ε → ε'} {a : α} : r.mapError f = .ok a ↔ r = .ok a := by
  cases r with
  | error e =>
    change Except.error (f e) = .ok a ↔ _
    simp
  | ok b =>
    change Except.ok b = .ok a ↔ _
    simp

theorem mapError_eq_error_iff {f : ε → ε'} {e : ε'} :
    r.mapError f = .error e ↔ ∃ e', r = .error e' ∧ f e' = e := by
  cases r with
  | error e' =>
    change Except.error (f e') = .error e ↔ _
    simp
  | ok a =>
    change Except.ok a = .error e ↔ _
    simp

theorem exists_of_isOk (h : r.isOk = true) : ∃ a, r = .ok a := by
  cases r with
  | ok a => exact ⟨a, rfl⟩
  | error e => cases h

end

theorem Payload.check_eq_ok_iff {payload : Fields} {required : List String} {limit : Nat} :
    check payload required limit = .ok () ↔
      (∀ path ∈ required, isFilled payload path = true) ∧ size payload ≤ limit := by
  unfold check
  split
  · rename_i path hpath
    have hmem := List.mem_of_find?_eq_some hpath
    have hempty := List.find?_some hpath
    simp only [reduceCtorEq, false_iff, not_and]
    intro hall
    simp [hall path hmem] at hempty
  · rename_i hnone
    simp only [List.find?_eq_none, Bool.not_eq_true', Bool.not_eq_false] at hnone
    split <;> simp_all

/-- Whether a payload was broken off. -/
def Payload.isBrokenOff : Except TemplateError Fields → Bool
  | .error .brokenOff => true
  | _ => false

theorem Payload.isBrokenOff_iff {payload : Except TemplateError Fields} :
    isBrokenOff payload = true ↔ payload = .error .brokenOff := by
  rcases payload with e | fields
  · cases e <;> simp [isBrokenOff]
  · simp [isBrokenOff]

/-- Whether an error comes of the mappings. No other stage makes such errors. -/
def TemplateError.OfMappings : TemplateError → Prop
  | .mappings _ | .brokenOff => True
  | _ => False

namespace Engine

variable {e : Engine} {lead : Lead} {buyer : Buyer} {t : Template} {withEvidence : Bool}
  {now : Instant} {facts raw : Fields}

/-- The payload that is assembled from the fields that the mappings have written. -/
def complete (e : Engine) (lead : Lead) (buyer : Buyer) (t : Template) (withEvidence : Bool)
    (mapped : Fields) : Except TemplateError Fields :=
  let evident := match lead.compliance with
    | some c => if withEvidence then c.addTo buyer.aliases mapped else mapped
    | none => mapped
  e.after buyer.id (evident.putAll t.constants)

theorem assemble_eq :
    e.assemble lead buyer t withEvidence facts =
      t.mapped e.catalogue (.object facts) >>= e.complete lead buyer t withEvidence :=
  rfl

theorem finish_eq_ok_iff {payload : Fields} :
    e.finish t raw = .ok payload ↔ payload = Sanitize.valueFields raw ∧
      Payload.check payload t.requiredTargets (t.maxPayloadBytes.getD e.limit) = .ok () := by
  simp only [finish, bind_eq_ok_iff, mapError_eq_ok_iff]
  constructor
  · rintro ⟨_, hcheck, ⟨⟩⟩
    exact ⟨rfl, hcheck⟩
  · rintro ⟨rfl, hcheck⟩
    exact ⟨(), hcheck, rfl⟩

theorem payload_eq_ok_iff {payload : Fields} :
    e.payload lead buyer t withEvidence now = .ok payload ↔
      lead.check = .ok () ∧ buyer.check = .ok () ∧ t.check = .ok () ∧ ∃ facts mapped raw,
        e.before buyer.id (lead.facts now) = .ok facts ∧
        t.mapped e.catalogue (.object facts) = .ok mapped ∧
        e.complete lead buyer t withEvidence mapped = .ok raw ∧ e.finish t raw = .ok payload := by
  simp only [Engine.payload, assemble_eq, bind_eq_ok_iff, mapError_eq_ok_iff]
  constructor
  · rintro ⟨_, hlead, _, hbuyer, _, ht, facts, hfacts, raw, ⟨mapped, hmapped, hraw⟩, hfinish⟩
    exact ⟨hlead, hbuyer, ht, facts, mapped, raw, hfacts, hmapped, hraw, hfinish⟩
  · rintro ⟨hlead, hbuyer, ht, facts, mapped, raw, hfacts, hmapped, hraw, hfinish⟩
    exact ⟨(), hlead, (), hbuyer, (), ht, facts, hfacts, raw, ⟨mapped, hmapped, hraw⟩, hfinish⟩

variable {err : TemplateError}

theorem before_ne_error (herr : err.OfMappings) {buyerId : String} :
    e.before buyerId facts ≠ .error err := by
  unfold before
  split
  · simp
  · simp only [ne_eq, mapError_eq_error_iff, not_exists, not_and]
    rintro text - rfl
    exact herr

theorem after_ne_error (herr : err.OfMappings) {buyerId : String} :
    e.after buyerId raw ≠ .error err := by
  unfold after
  split
  · simp
  · simp only [ne_eq, mapError_eq_error_iff, not_exists, not_and]
    rintro text - rfl
    exact herr

theorem finish_ne_error (herr : err.OfMappings) : e.finish t raw ≠ .error err := by
  simp only [finish, ne_eq, bind_eq_error_iff, mapError_eq_error_iff, pure, Except.pure,
    reduceCtorEq, and_false, exists_false, or_false, not_exists, not_and]
  rintro fault - rfl
  exact herr

/-- What comes of the mappings alone is not lost: they are reached, and the error is theirs. -/
theorem payload_eq_error_iff (herr : err.OfMappings) :
    e.payload lead buyer t withEvidence now = .error err ↔
      lead.check = .ok () ∧ buyer.check = .ok () ∧ t.check = .ok () ∧ ∃ facts,
        e.before buyer.id (lead.facts now) = .ok facts ∧
        t.mapped e.catalogue (.object facts) = .error err := by
  have hinvalid (fault : FieldError) : TemplateError.invalid fault ≠ err := by
    rintro rfl
    exact herr
  simp only [Engine.payload, assemble_eq, bind_eq_error_iff, mapError_eq_error_iff,
    mapError_eq_ok_iff, complete, before_ne_error herr, after_ne_error herr, finish_ne_error herr,
    hinvalid, and_false, exists_false, false_or, or_false]
  constructor
  · rintro ⟨_, hlead, _, hbuyer, _, ht, facts, hfacts, hmapped⟩
    exact ⟨hlead, hbuyer, ht, facts, hfacts, hmapped⟩
  · rintro ⟨hlead, hbuyer, ht, facts, hfacts, hmapped⟩
    exact ⟨(), hlead, (), hbuyer, (), ht, facts, hfacts, hmapped⟩

theorem payload_eq_mappings_iff {fs : List MappingFailure} :
    e.payload lead buyer t withEvidence now = .error (.mappings fs) ↔
      lead.check = .ok () ∧ buyer.check = .ok () ∧ t.check = .ok () ∧ ∃ facts,
        e.before buyer.id (lead.facts now) = .ok facts ∧
        t.mapped e.catalogue (.object facts) = .error (.mappings fs) :=
  payload_eq_error_iff trivial

theorem payload_eq_brokenOff_iff :
    e.payload lead buyer t withEvidence now = .error .brokenOff ↔
      lead.check = .ok () ∧ buyer.check = .ok () ∧ t.check = .ok () ∧ ∃ facts,
        e.before buyer.id (lead.facts now) = .ok facts ∧
        t.mapped e.catalogue (.object facts) = .error .brokenOff :=
  payload_eq_error_iff trivial

end Engine

end PingPost
