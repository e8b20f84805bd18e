import PingPost.Proofs.Auction

/-!
Orders without ties.

Buyers are asked in an order, and bidders are ranked in one, in which two stand equal only if they
have the same id. Who remains when one buyer is left out therefore remains in an order that does
not depend on that buyer (`Registry.eligible_filter_eq`, `Bid.ranking_filter_eq`).
-/

namespace PingPost

/-- What remains of two sorted lists is the same if the same items remain and there are no ties. -/
theorem filter_mergeSort_eq {α : Type} {le : α → α → Bool}
    (htrans : ∀ a b c, le a b = true → le b c = true → le a c = true)
    (htotal : ∀ a b, (le a b || le b a) = true) {keep : α → Bool} {l l' : List α}
    (hperm : (l.filter keep).Perm (l'.filter keep))
    (hties : ∀ a ∈ l.filter keep, ∀ b ∈ l.filter keep, le a b = true → le b a = true → a = b) :
    (l.mergeSort le).filter keep = (l'.mergeSort le).filter keep := by
  have hsorted (m : List α) : ((m.mergeSort le).filter keep).Pairwise fun a b => le a b = true :=
    (List.pairwise_mergeSort htrans htotal m).filter keep
  have hsort (m : List α) : ((m.mergeSort le).filter keep).Perm (m.filter keep) :=
    (List.mergeSort_perm m le).filter keep
  refine List.Perm.eq_of_pairwise (fun a b ha hb => ?_) (hsorted l) (hsorted l')
    (((hsort l).trans hperm).trans (hsort l').symm)
  exact hties a ((hsort l).mem_iff.mp ha) b (hperm.mem_iff.mpr ((hsort l').mem_iff.mp hb))

/-! ### The order in which buyers are asked -/

namespace Registry

theorem precedes_trans (a b c : Nat × Buyer) (hab : precedes a b = true)
    (hbc : precedes b c = true) : precedes a c = true := by
  unfold precedes at *
  have htrans : a.2.id ≤ b.2.id → b.2.id ≤ c.2.id → a.2.id ≤ c.2.id := String.le_trans
  grind

theorem precedes_total (a b : Nat × Buyer) : (precedes a b || precedes b a) = true := by
  unfold precedes
  have htotal := String.le_total a.2.id b.2.id
  grind

theorem precedes_antisymm {a b : Nat × Buyer} (hab : precedes a b = true)
    (hba : precedes b a = true) : a.2.id = b.2.id := by
  unfold precedes at *
  have hantisymm : a.2.id ≤ b.2.id → b.2.id ≤ a.2.id → a.2.id = b.2.id := String.le_antisymm
  grind

theorem mem_candidates {r : Registry} {lead : Lead} {c : Nat × Buyer} :
    c ∈ r.candidates lead ↔
      r.get? c.2.id = some c.2 ∧ ∃ s, c.2.serviceFor? lead = some s ∧ s.priority = c.1 := by
  obtain ⟨n, b⟩ := c
  simp only [candidates, get?, List.mem_filterMap, Option.map_eq_some_iff, Prod.mk.injEq,
    Table.get?_eq_some_iff r.ordered]
  constructor
  · rintro ⟨e, he, s, hs, rfl, rfl⟩
    exact ⟨r.keyed e he ▸ he, s, hs, rfl⟩
  · rintro ⟨hb, s, hs, hn⟩
    exact ⟨_, hb, s, hs, hn, rfl⟩

/-- There are no ties among the candidates. -/
theorem eq_of_precedes {r : Registry} {lead : Lead} {a b : Nat × Buyer}
    (ha : a ∈ r.candidates lead) (hb : b ∈ r.candidates lead) (hab : precedes a b = true)
    (hba : precedes b a = true) : a = b :=
  List.inj_on_of_nodup_map (r.candidates_ids_nodup lead) ha hb (precedes_antisymm hab hba)

/-- The order of the buyers but one does not depend on that one. -/
theorem eligible_filter_eq {r r' : Registry} {odd : String}
    (h : ∀ id, id ≠ odd → r.get? id = r'.get? id) (lead : Lead) :
    (r.eligible lead).filter (fun b => b.id ≠ odd) =
      (r'.eligible lead).filter (fun b => b.id ≠ odd) := by
  have hnodup (s : Registry) : (s.candidates lead).Nodup :=
    (s.candidates_ids_nodup lead).of_map _
  have hperm : ((r.candidates lead).filter fun c => c.2.id ≠ odd).Perm
      ((r'.candidates lead).filter fun c => c.2.id ≠ odd) := by
    refine (List.perm_ext_iff_of_nodup ((hnodup r).filter _) ((hnodup r').filter _)).mpr fun c => ?_
    simp only [List.mem_filter, mem_candidates, decide_eq_true_eq]
    exact and_congr_left fun hid => by rw [h c.2.id hid]
  have hsorted := filter_mergeSort_eq precedes_trans precedes_total hperm fun a ha b hb =>
    eq_of_precedes (List.mem_filter.mp ha).1 (List.mem_filter.mp hb).1
  rw [eligible, eligible, List.filter_map, List.filter_map]
  exact congrArg _ hsorted

end Registry

/-! ### The order of the bidders -/

namespace Bid

theorem Rank.precedes_trans (r s t : Rank) (hrs : r.precedes s = true)
    (hst : s.precedes t = true) : r.precedes t = true := by
  unfold precedes at *
  have htrans : r.buyerId ≤ s.buyerId → s.buyerId ≤ t.buyerId → r.buyerId ≤ t.buyerId :=
    String.le_trans
  grind

theorem Rank.precedes_total (r s : Rank) : (r.precedes s || s.precedes r) = true := by
  unfold precedes
  have htotal := String.le_total r.buyerId s.buyerId
  grind

theorem Rank.precedes_antisymm {r s : Rank} (hrs : r.precedes s = true)
    (hsr : s.precedes r = true) : r.buyerId = s.buyerId := by
  unfold precedes at *
  have hantisymm : r.buyerId ≤ s.buyerId → s.buyerId ≤ r.buyerId → r.buyerId = s.buyerId :=
    String.le_antisymm
  grind

/-- The ranking of some bidders does not depend on the other bids, nor on the order in which the
bids came in. -/
theorem ranking_filter_perm {bids bids' : List Bid} {keep : Bid → Bool}
    (hnodup : (bids.map (·.buyerId)).Nodup)
    (h : (bids.filter keep).Perm (bids'.filter keep)) :
    (ranking bids).filter keep = (ranking bids').filter keep := by
  have husable : ((bids.filter fun b => b.usable?.isSome).filter keep).Perm
      ((bids'.filter fun b => b.usable?.isSome).filter keep) := by
    rw [List.filter_comm _ _ bids, List.filter_comm _ _ bids']
    exact h.filter _
  refine filter_mergeSort_eq (fun a b c => Rank.precedes_trans a.rank b.rank c.rank)
    (fun a b => Rank.precedes_total a.rank b.rank) husable fun a ha b hb hab hba => ?_
  have hmem {c : Bid} (hc : c ∈ (bids.filter fun b => b.usable?.isSome).filter keep) : c ∈ bids :=
    (List.mem_filter.mp (List.mem_filter.mp hc).1).1
  exact List.inj_on_of_nodup_map hnodup (hmem ha) (hmem hb) (Rank.precedes_antisymm hab hba)

theorem ranking_filter_eq {bids bids' : List Bid} {keep : Bid → Bool}
    (hnodup : (bids.map (·.buyerId)).Nodup) (h : bids.filter keep = bids'.filter keep) :
    (ranking bids).filter keep = (ranking bids').filter keep :=
  ranking_filter_perm hnodup (.of_eq h)

/-- Without two bids of one buyer, the order in which the bids came in does not matter. -/
theorem ranking_eq_of_perm {bids bids' : List Bid} (hnodup : (bids.map (·.buyerId)).Nodup)
    (h : bids.Perm bids') : ranking bids = ranking bids' := by
  have hall := ranking_filter_perm hnodup (h.filter fun _ => true)
  rwa [List.filter_true, List.filter_true] at hall

end Bid

end PingPost
