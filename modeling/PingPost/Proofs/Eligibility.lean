import PingPost.Proofs.Offers
import PingPost.Proofs.Orders
import PingPost.Proofs.Sample

/-!
Who may be offered a lead, whatever happened before.

A registry is built by registering and dropping buyers; of each id the last word counts
(`Registry.get?_ofRevisions`). The buyers a lead may be offered to are those of the last words who
may be offered it, each of them once, in an order without ties. So neither the rest of the history
nor the order in which the registry goes through its buyers can be seen in them
(`Registry.eligible_exact`).
-/

namespace PingPost.Registry

/-- A change of a registry. -/
inductive Revision where
  | upsert (buyer : Buyer)
  | erase (id : String)

/-- The registry after a change. -/
def revise (r : Registry) : Revision → Registry
  | .upsert buyer => r.upsert buyer
  | .erase id => r.erase id

/-- The registry after some changes of the empty one. -/
def ofRevisions (revisions : List Revision) : Registry := revisions.foldl revise empty

/-- What a change says about an id, if it is about it: who is registered, or that nobody is. -/
def Revision.about? (id : String) : Revision → Option (Option Buyer)
  | .upsert buyer => if buyer.id = id then some (some buyer) else none
  | .erase id' => if id' = id then some none else none

/-- Who is registered under an id by the last change that is about it. -/
def lastWord (revisions : List Revision) (id : String) : Option Buyer :=
  (revisions.reverse.findSome? (Revision.about? id)).getD none

/-- The buyers of a list a lead may be offered to, in order. -/
def eligibleAmong (buyers : List Buyer) (lead : Lead) : List Buyer :=
  ((buyers.filterMap fun b => (b.serviceFor? lead).map fun s => (s.priority, b)).mergeSort
    precedes).map (·.2)

variable {r r' : Registry} {lead : Lead}

/-! ### The last word -/

theorem get?_revise (r : Registry) (revision : Revision) (id : String) :
    (r.revise revision).get? id = (revision.about? id).getD (r.get? id) := by
  cases revision with
  | upsert buyer =>
    by_cases hid : buyer.id = id
    · subst hid
      simp [revise, Revision.about?, get?_upsert_self]
    · simp [revise, Revision.about?, hid, get?_upsert_of_ne (Ne.symm hid)]
  | erase id' =>
    by_cases hid : id' = id
    · subst hid
      simp [revise, Revision.about?, erase, get?]
    · simp [revise, Revision.about?, hid, erase, get?, Table.get?_erase_of_ne (Ne.symm hid)]

/-- Of each id the last word counts. -/
theorem get?_ofRevisions (revisions : List Revision) (id : String) :
    (ofRevisions revisions).get? id = lastWord revisions id := by
  have hfold (r : Registry) : (revisions.foldl revise r).get? id =
      (revisions.reverse.findSome? (Revision.about? id)).getD (r.get? id) := by
    induction revisions generalizing r with
    | nil => rfl
    | cons revision revisions ih =>
      rw [List.foldl_cons, ih, get?_revise, List.reverse_cons, List.findSome?_append]
      cases List.findSome? (Revision.about? id) revisions.reverse with
      | some word => rfl
      | none => simp [List.findSome?_cons]; cases revision.about? id <;> rfl
  exact hfold empty

/-- A registry is determined by who is registered. -/
theorem ext_get? (h : ∀ id, r.get? id = r'.get? id) : r = r' := by
  have hentries : r.entries = r'.entries := r.ordered.ext r'.ordered h
  cases r
  cases r'
  cases hentries
  rfl

/-! ### The order -/

theorem mem_eligible {b : Buyer} :
    b ∈ r.eligible lead ↔ r.get? b.id = some b ∧ ∃ s, b.serviceFor? lead = some s := by
  simp only [eligible, List.mem_map, List.mem_mergeSort, mem_candidates]
  constructor
  · rintro ⟨c, ⟨hc, s, hs, -⟩, rfl⟩
    exact ⟨hc, s, hs⟩
  · rintro ⟨hb, s, hs⟩
    exact ⟨(s.priority, b), ⟨hb, s, hs, rfl⟩, rfl⟩

/-- The order in which buyers are asked has no ties: the priority decides, and then the id. -/
theorem eligible_pairwise (r : Registry) (lead : Lead) :
    (r.eligible lead).Pairwise fun a b => ∀ s t, a.serviceFor? lead = some s →
      b.serviceFor? lead = some t →
      t.priority < s.priority ∨ t.priority = s.priority ∧ a.id < b.id := by
  have hsorted : ((r.candidates lead).mergeSort precedes).Pairwise fun a b =>
      precedes a b = true :=
    List.pairwise_mergeSort precedes_trans precedes_total _
  have hids : ((r.candidates lead).mergeSort precedes).Pairwise fun a b => a.2.id ≠ b.2.id := by
    have hnodup := r.eligible_ids_nodup lead
    rw [eligible, List.map_map] at hnodup
    exact List.pairwise_map.mp hnodup
  refine List.pairwise_map.mpr ((hsorted.and hids).imp_of_mem fun {a b} ha hb hab s t hs ht => ?_)
  obtain ⟨hprecedes, hne⟩ := hab
  obtain ⟨-, s', hs', ha⟩ := mem_candidates.mp (List.mem_mergeSort.mp ha)
  obtain ⟨-, t', ht', hb⟩ := mem_candidates.mp (List.mem_mergeSort.mp hb)
  cases hs.symm.trans hs'
  cases ht.symm.trans ht'
  have hlt : a.2.id ≤ b.2.id → a.2.id < b.2.id := fun hle => Std.lt_of_le_of_ne hle hne
  rw [ha, hb]
  unfold precedes at hprecedes
  grind

/-- Whichever way the buyers are gone through, their order is the same. -/
theorem eligibleAmong_perm {buyers : List Buyer} (h : buyers.Perm (r.entries.map (·.2)))
    (lead : Lead) : eligibleAmong buyers lead = r.eligible lead := by
  have hperm : (buyers.filterMap fun b => (b.serviceFor? lead).map fun s => (s.priority, b)).Perm
      (r.candidates lead) := by
    have hfound := h.filterMap fun b => (b.serviceFor? lead).map fun s => (s.priority, b)
    rwa [List.filterMap_map] at hfound
  have hsorted := filter_mergeSort_eq precedes_trans precedes_total
    (hperm.filter fun _ => true) fun a ha b hb =>
      eq_of_precedes (hperm.mem_iff.mp (List.mem_filter.mp ha).1)
        (hperm.mem_iff.mp (List.mem_filter.mp hb).1)
  rw [List.filter_true, List.filter_true] at hsorted
  rw [eligibleAmong, eligible, hsorted]

/-- **The buyers a lead may be offered to.** After any changes they are those whose last word is
that they are registered and who may be offered the lead, each of them once, by the priority of the
service and then by the id. A registry with the same buyers has the same order, and so has every
list of these buyers. -/
theorem eligible_exact (revisions : List Revision) (lead : Lead) :
    (∀ b, b ∈ (ofRevisions revisions).eligible lead ↔
      lastWord revisions b.id = some b ∧ ∃ s, b.serviceFor? lead = some s) ∧
    (((ofRevisions revisions).eligible lead).map (·.id)).Nodup ∧
    (((ofRevisions revisions).eligible lead).Pairwise fun a b => ∀ s t,
      a.serviceFor? lead = some s → b.serviceFor? lead = some t →
      t.priority < s.priority ∨ t.priority = s.priority ∧ a.id < b.id) ∧
    (∀ revisions', (∀ id, lastWord revisions' id = lastWord revisions id) →
      (ofRevisions revisions').eligible lead = (ofRevisions revisions).eligible lead) ∧
    ∀ buyers : List Buyer, buyers.Perm ((ofRevisions revisions).entries.map (·.2)) →
      eligibleAmong buyers lead = (ofRevisions revisions).eligible lead := by
  refine ⟨fun b => ?_, (ofRevisions revisions).eligible_ids_nodup lead,
    (ofRevisions revisions).eligible_pairwise lead, fun revisions' hsame => ?_,
    fun buyers hbuyers => eligibleAmong_perm hbuyers lead⟩
  · rw [mem_eligible, get?_ofRevisions]
  · have hregistry : ofRevisions revisions' = ofRevisions revisions :=
      ext_get? fun id => by rw [get?_ofRevisions, get?_ofRevisions, hsame]
    rw [hregistry]

end PingPost.Registry

namespace PingPost.Sample

open Registry

/-- Two buyers are registered, the second one is dropped, and registered again. -/
def detour : List Revision :=
  [.upsert (rival 1), .upsert (buyer .standard), .erase "beta", .upsert (rival 1)]

theorem lastWord_detour (id : String) :
    lastWord [.upsert (buyer .standard), .upsert (rival 1)] id = lastWord detour id := by
  have hrival : Revision.about? id (.upsert (rival 1)) =
      if "beta" = id then some (some (rival 1)) else none := rfl
  have herase : Revision.about? id (.erase "beta") = if "beta" = id then some none else none := rfl
  simp only [lastWord, detour, List.reverse_cons, List.reverse_nil, List.nil_append,
    List.cons_append, List.findSome?_cons, hrival, herase]
  by_cases hbeta : "beta" = id
  · simp only [if_pos hbeta]
  · simp only [if_neg hbeta]

theorem detour_perm : [rival 1, buyer .standard].Perm ((ofRevisions detour).entries.map (·.2)) :=
  .swap (buyer .standard) (rival 1) []

end PingPost.Sample

namespace PingPost.Registry

open Sample in
/-- Two buyers of the same priority come by their ids, with and without a detour. -/
theorem eligible_exact_sample :
    (∀ id, lastWord [.upsert (buyer .standard), .upsert (rival 1)] id = lastWord detour id) ∧
      (ofRevisions [.upsert (buyer .standard), .upsert (rival 1)]).eligible lead =
        (ofRevisions detour).eligible lead ∧
      eligibleAmong [rival 1, buyer .standard] lead = (ofRevisions detour).eligible lead ∧
      ((ofRevisions detour).eligible lead).map (·.id) = ["alpha", "beta"] := by
  obtain ⟨-, -, -, hhistory, horder⟩ := eligible_exact detour lead
  have hcandidates : (ofRevisions detour).candidates lead =
      [(1, buyer .standard), (1, rival 1)] := rfl
  have hsorted : [(1, buyer .standard), (1, rival 1)].Pairwise fun a b => precedes a b = true := by
    decide
  refine ⟨lastWord_detour, hhistory _ lastWord_detour, horder _ detour_perm, ?_⟩
  rw [eligible, hcandidates, List.mergeSort_of_pairwise hsorted]
  rfl

end PingPost.Registry
