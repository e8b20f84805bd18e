import PingPost.Proofs.Payload
import PingPost.Proofs.Sample

/-!
Which source decides a field of a payload.

The evidence is a list of facts in a fixed order (`Fact.order`), each offering its value under all
the names the buyer has for it. Written fact by fact, the names may overlap with each other and
with what the mappings wrote. What counts in the end is the first offer for a name that was free
(`Compliance.get?_addTo`). Constants of the template go over both.
-/

namespace PingPost

/-! ### Facts and their names -/

/-- A fact in the evidence of consent. -/
inductive Fact where
  | certUrl | certId | jornayaId | consent | consentText | ipAddress | userAgent | timestamp
  | latitude | longitude | city | state
  | attribution (key : String)

namespace Fact

/-- The names that are listed for a fact. -/
def listed (a : Aliases) : Fact → List String
  | certUrl => a.certUrl
  | certId => a.certId
  | jornayaId => a.jornayaId
  | consent => a.consent
  | consentText => a.consentText
  | ipAddress => a.ipAddress
  | userAgent => a.userAgent
  | timestamp => a.timestamp
  | latitude => a.geo.latitude
  | longitude => a.geo.longitude
  | city => a.geo.city
  | state => a.geo.state
  | attribution key => (a.attribution.get? key).getD []

/-- The names a buyer has for the facts of the attribution, or the usual ones for all of them. -/
def attributionNames (own : Aliases) : Table String (List String) :=
  if own.attribution.isEmpty then Aliases.standard.attribution else own.attribution

/-- The names under which a fact goes to a buyer. An empty list of one fact of the attribution is
kept as it is. -/
def names (own : Aliases) : Fact → List String
  | attribution key => ((attributionNames own).get? key).getD []
  | f => Aliases.orUsual (f.listed own) (f.listed .standard)

/-- What the evidence says about a fact. -/
def value (c : Compliance) : Fact → Option Json
  | certUrl => c.certUrl.map .text
  | certId => c.certId.map .text
  | jornayaId => c.jornayaId.map .text
  | consent => some (.bool c.consent)
  | consentText => c.consentText.map .text
  | ipAddress => c.ipAddress.map .text
  | userAgent => c.userAgent.map .text
  | timestamp => c.timestamp.map fun t => .text t.toRfc3339
  | latitude => c.geo.bind fun g => g.latitude.map .real
  | longitude => c.geo.bind fun g => g.longitude.map .real
  | city => c.geo.bind fun g => g.city.map .text
  | state => c.geo.bind fun g => g.state.map .text
  | attribution key => ((Table.get? key c.attribution.entries).bind id).map .text

/-- The facts but those of the attribution, in their order. -/
def leading : List Fact :=
  [certUrl, certId, jornayaId, consent, consentText, ipAddress, userAgent, timestamp,
    latitude, longitude, city, state]

/-- All facts that a buyer has names for, the ones that come first before the others. -/
def order (own : Aliases) : List Fact :=
  leading ++ (attributionNames own).keys.map attribution

/-- What a fact offers for a field. -/
def offer (c : Compliance) (own : Aliases) (name : String) (f : Fact) : Option Json :=
  if name ∈ f.names own then f.value c else none

/-- Whether a fact is the first one with a value for a field. -/
structure Decides (c : Compliance) (own : Aliases) (name : String) (f : Fact) : Prop where
  named : name ∈ f.names own
  known : (f.value c).isSome
  first : ∃ before after, order own = before ++ f :: after ∧
    ∀ g ∈ before, name ∈ g.names own → g.value c = none

variable {c : Compliance} {own : Aliases} {name : String} {f : Fact}

theorem offer_eq_some_iff {v : Json} :
    f.offer c own name = some v ↔ name ∈ f.names own ∧ f.value c = some v := by
  unfold offer
  split <;> simp_all

theorem offer_eq_none_iff :
    f.offer c own name = none ↔ (name ∈ f.names own → f.value c = none) := by
  unfold offer
  split <;> simp_all

/-- A fact that has a name has a place in the order. -/
theorem mem_order (h : name ∈ f.names own) : f ∈ order own := by
  cases f with
  | attribution key =>
    apply List.mem_append_right
    apply List.mem_map_of_mem
    apply Decidable.byContradiction
    intro hkey
    rw [names, Table.get?_eq_none_iff.mpr hkey] at h
    exact List.not_mem_nil h
  | _ =>
    apply List.mem_append_left
    simp [leading]

theorem findSome?_offer_isSome_iff :
    ((order own).findSome? (offer c own name)).isSome ↔
      ∃ f : Fact, name ∈ f.names own ∧ (f.value c).isSome := by
  rw [List.findSome?_isSome_iff]
  simp only [Option.isSome_iff_exists, offer_eq_some_iff]
  constructor
  · rintro ⟨f, -, v, hname, hv⟩
    exact ⟨f, hname, v, hv⟩
  · rintro ⟨f, hname, v, hv⟩
    exact ⟨f, mem_order hname, v, hname, hv⟩

theorem findSome?_offer_eq_some_iff {v : Json} :
    (order own).findSome? (offer c own name) = some v ↔
      ∃ f : Fact, f.Decides c own name ∧ f.value c = some v := by
  simp only [List.findSome?_eq_some_iff, offer_eq_some_iff, offer_eq_none_iff]
  constructor
  · rintro ⟨before, f, after, horder, ⟨hname, hv⟩, hbefore⟩
    exact ⟨f, ⟨hname, Option.isSome_of_eq_some hv, before, after, horder, hbefore⟩, hv⟩
  · rintro ⟨f, ⟨hname, -, before, after, horder, hbefore⟩, hv⟩
    exact ⟨before, f, after, horder, ⟨hname, hv⟩, hbefore⟩

end Fact

/-! ### Writing where there is room -/

namespace Compliance

theorem get?_foldl_putNew (k : String) (names : List String) (v : Json) (payload : Fields) :
    (names.foldl (fun payload name => payload.putNew name v) payload).get? k =
      (payload.get? k).or (if k ∈ names then some v else none) := by
  induction names generalizing payload with
  | nil => simp
  | cons name names ih =>
    rw [List.foldl_cons, ih, Table.get?_putNew, Option.or_assoc]
    congr 1
    by_cases hk : k = name
    · simp [hk]
    · simp [hk]

/-- One claim: it counts for its names where the payload has nothing. -/
theorem get?_putClaim (k : String) (claim : List String × Option Json) (payload : Fields) :
    (putClaim payload claim).get? k =
      (payload.get? k).or (if k ∈ claim.1 then claim.2 else none) := by
  obtain ⟨names, value⟩ := claim
  cases value with
  | none => simp [putClaim]
  | some v => exact get?_foldl_putNew k names v payload

/-- All claims, one after the other: the first one for a name counts. -/
theorem get?_foldl_putClaim (k : String) (claims : List (List String × Option Json))
    (payload : Fields) :
    (claims.foldl putClaim payload).get? k =
      (payload.get? k).or
        (claims.findSome? fun claim => if k ∈ claim.1 then claim.2 else none) := by
  induction claims generalizing payload with
  | nil => simp
  | cons claim claims ih =>
    rw [List.foldl_cons, ih, get?_putClaim, Option.or_assoc, List.findSome?_cons]
    congr 1
    cases (if k ∈ claim.1 then claim.2 else none) <;> rfl

variable {c : Compliance} {own : Aliases}

theorem attribution_claims_eq {names : Table String (List String)} (h : names.Ordered) :
    c.attribution.claims names = names.keys.map fun key =>
      ((names.get? key).getD [], (Fact.attribution key).value c) := by
  rw [Table.keys, List.map_map]
  apply List.map_congr_left
  rintro ⟨key, targets⟩ hmem
  have hget := (Table.get?_eq_some_iff h).mpr hmem
  simp [hget, Fact.value]

/-- A place that is not known claims nothing, and neither do its parts. -/
theorem addTo_eq (h : own.attribution.Ordered) (payload : Fields) :
    c.addTo own payload =
      ((Fact.order own).map fun f => (f.names own, f.value c)).foldl putClaim payload := by
  have hnames : (Fact.attributionNames own).Ordered := by
    unfold Fact.attributionNames
    split
    · exact Table.Ordered.ofList _
    · exact h
  have hattribution : ((Fact.attributionNames own).keys.map Fact.attribution).map
      (fun f => (f.names own, f.value c)) = c.attribution.claims (Fact.attributionNames own) := by
    rw [attribution_claims_eq hnames, List.map_map]
    rfl
  rw [Fact.order, List.map_append, hattribution, addTo, claims]
  rw [List.foldl_append, List.foldl_append, List.foldl_append]
  congr 1
  cases hgeo : c.geo with
  | none => simp [Fact.leading, Fact.value, hgeo, Fact.names, Fact.listed, putClaim]
  | some g => simp [Fact.leading, Fact.value, hgeo, Fact.names, Fact.listed, Geo.claims]

/-- What a payload has stays, and the rest goes to the first fact that offers a value. -/
theorem get?_addTo (h : own.attribution.Ordered) (payload : Fields) (k : String) :
    (c.addTo own payload).get? k =
      (payload.get? k).or ((Fact.order own).findSome? (Fact.offer c own k)) := by
  rw [addTo_eq h, get?_foldl_putClaim, List.findSome?_map]
  rfl

end Compliance

/-! ### All sources -/

namespace Engine

variable {e : Engine} {buyer : Buyer} {t : Template}

/-- The evidence that goes into a payload, on its own. -/
def evidence (lead : Lead) (own : Aliases) (withEvidence : Bool) : Fields :=
  match lead.compliance with
  | some c => if withEvidence then c.addTo own [] else []
  | none => []

theorem complete_of_unhooked (lead : Lead) (withEvidence : Bool)
    (hhook : e.hooks.get? buyer.id = none) (hown : buyer.aliases.attribution.Ordered)
    (hconstants : t.constants.Ordered) (mapped : Fields) :
    ∃ raw, e.complete lead buyer t withEvidence mapped = .ok raw ∧ ∀ k, raw.get? k =
      (t.constants.get? k).or
        ((mapped.get? k).or ((evidence lead buyer.aliases withEvidence).get? k)) := by
  have hafter (payload : Fields) : e.after buyer.id payload = .ok payload := by
    simp [after, hhook]
  refine ⟨_, hafter _, fun k => ?_⟩
  rw [hconstants.get?_putAll]
  congr 1
  unfold evidence
  cases lead.compliance with
  | none => simp
  | some c =>
    cases withEvidence with
    | false => simp
    | true => simp [Compliance.get?_addTo hown]

/-- Evidence never goes over a field that is there; of the facts that are known and have the name
of a free field, the first one decides it. Constants of the template go over the fields of the
mappings and these over the evidence. -/
theorem precedence_of_sources (c : Compliance) {own : Aliases} (hown : own.attribution.Ordered)
    (payload : Fields) :
    (∀ k v, payload.get? k = some v → (c.addTo own payload).get? k = some v) ∧
    (∀ k, payload.has k = false → ((c.addTo own payload).has k = true ↔
      ∃ f : Fact, k ∈ f.names own ∧ (f.value c).isSome)) ∧
    (∀ k v, payload.has k = false → ((c.addTo own payload).get? k = some v ↔
      ∃ f : Fact, f.Decides c own k ∧ f.value c = some v)) ∧
    ∀ (e : Engine) (lead : Lead) (buyer : Buyer) (t : Template) (withEvidence : Bool),
      e.hooks.get? buyer.id = none → buyer.aliases = own → t.constants.Ordered →
      (∀ facts mapped, t.mapped e.catalogue (.object facts) = .ok mapped →
        ∃ raw, e.assemble lead buyer t withEvidence facts = .ok raw ∧ ∀ k, raw.get? k =
          (t.constants.get? k).or
            ((mapped.get? k).or ((evidence lead own withEvidence).get? k))) ∧
      ∀ now sent, e.payload lead buyer t withEvidence now = .ok sent →
        ∃ mapped raw, t.mapped e.catalogue (.object (lead.facts now)) = .ok mapped ∧
          e.assemble lead buyer t withEvidence (lead.facts now) = .ok raw ∧
          sent = Sanitize.valueFields raw := by
  have hadd {k : String} (hfree : payload.has k = false) :
      (c.addTo own payload).get? k = (Fact.order own).findSome? (Fact.offer c own k) := by
    have hnone : payload.get? k = none := by simpa [Table.has] using hfree
    rw [Compliance.get?_addTo hown, hnone, Option.none_or]
  refine ⟨?kept, ?added, ?first, ?sources⟩
  case kept =>
    intro k v hv
    rw [Compliance.get?_addTo hown, hv, Option.some_or]
  case added =>
    intro k hfree
    rw [Table.has, hadd hfree]
    exact Fact.findSome?_offer_isSome_iff
  case first =>
    intro k v hfree
    rw [hadd hfree]
    exact Fact.findSome?_offer_eq_some_iff
  case sources =>
    intro e lead buyer t withEvidence hhook haliases hconstants
    subst haliases
    constructor
    · intro facts mapped hmapped
      obtain ⟨raw, hraw, hfields⟩ :=
        complete_of_unhooked lead withEvidence hhook hown hconstants mapped
      refine ⟨raw, ?_, hfields⟩
      rw [assemble_eq, hmapped]
      exact hraw
    · intro now sent hsent
      obtain ⟨-, -, -, facts, mapped, raw, hfacts, hmapped, hraw, hfinish⟩ :=
        payload_eq_ok_iff.mp hsent
      have hsame : facts = lead.facts now := by
        simpa [before, hhook, eq_comm] using hfacts
      subst hsame
      refine ⟨mapped, raw, hmapped, ?_, (finish_eq_ok_iff.mp hfinish).1⟩
      rw [assemble_eq, hmapped]
      exact hraw

/-- Both certificates go under one name, and the text of the consent under its usual one. -/
theorem precedence_of_sources_sample :
    let own : Aliases := { Aliases.standard with
      certUrl := ["proof"], certId := ["id", "proof"], consentText := [] }
    let c : Compliance :=
      ⟨none, some "cert-1", none, true, some "yes", none, none, none, none, .empty⟩
    let payload : Fields := [("id", .text "mapped")]
    let buyer : Buyer := { Sample.buyer .standard with aliases := own }
    let lead : Lead := { Sample.lead with compliance := some c }
    let t : Template := ⟨[], [("proof", .text "none")], none⟩
    own.attribution.Ordered ∧ standard.hooks.get? buyer.id = none ∧ t.constants.Ordered ∧
      (c.addTo own payload).get? "id" = some (.text "mapped") ∧
      (c.addTo own payload).get? "proof" = some (.text "cert-1") ∧
      (c.addTo own payload).has "tcpa_consent_text" = true ∧
      ∃ raw, standard.assemble lead buyer t true [] = .ok raw ∧
        raw.get? "proof" = some (.text "none") := by
  intro own c payload buyer lead t
  have hown : own.attribution.Ordered := Table.Ordered.ofList _
  have hconstants : t.constants.Ordered := List.pairwise_singleton _ _
  have hfirst : Fact.certId.Decides c own "proof" :=
    ⟨by decide, rfl, [.certUrl], _, rfl, by simp [Fact.value, c]⟩
  obtain ⟨hkept, hadded, hdecided, hsources⟩ := precedence_of_sources c hown payload
  obtain ⟨hassemble, -⟩ := hsources standard lead buyer t true rfl rfl hconstants
  obtain ⟨raw, hraw, hfields⟩ := hassemble [] [] rfl
  refine ⟨hown, rfl, hconstants, hkept _ _ rfl, ?_, ?_, raw, hraw, ?_⟩
  · exact (hdecided _ _ (by decide)).mpr ⟨_, hfirst, rfl⟩
  · exact (hadded _ (by decide)).mpr ⟨.consentText, by decide, rfl⟩
  · rw [hfields]
    rfl

end Engine

end PingPost
