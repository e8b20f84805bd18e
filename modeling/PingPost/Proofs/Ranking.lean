import PingPost.Proofs.Orders
import PingPost.Proofs.TotalOrder

/-!
The ranking of bids.

Usable bids stand in one order, which goes by the amount, then the priority, the time and the buyer
(`Bid.Outranks`). The ranking is what this order makes of the usable bids, and of them only; without
two bids of one buyer it does not depend on how they came in (`Bid.ranking_sorted`).
-/

namespace PingPost.Bid

/-- A bid stands before another: its amount is greater; or that is the same and its priority is
higher; or these are the same and its answer was faster; or all three are the same and the name of
its buyer is earlier. -/
inductive Outranks (a b : Bid) : Prop
  | amount {x y : Float64.Word} :
    a.amount = some x → b.amount = some y → Float64.Below y x → Outranks a b
  | priority : a.amount = b.amount → b.priority < a.priority → Outranks a b
  | time : a.amount = b.amount → a.priority = b.priority →
    a.responseTimeMs < b.responseTimeMs → Outranks a b
  | buyerId : a.amount = b.amount → a.priority = b.priority →
    a.responseTimeMs = b.responseTimeMs → a.buyerId < b.buyerId → Outranks a b

variable {a b : Bid}

theorem isSome_usable? : b.usable?.isSome = (b.success && b.amount.isSome) := by
  unfold usable?
  cases b.success <;> rfl

theorem rank_amount {x : Float64.Word} (hx : b.amount = some x) : b.rank.amount = x.orderKey := by
  simp only [rank, hx, Option.map_some, Option.getD_some]

@[simp] theorem priority_rank (b : Bid) : b.rank.priority = b.priority := rfl

@[simp] theorem time_rank (b : Bid) : b.rank.time = b.responseTimeMs := rfl

@[simp] theorem buyerId_rank (b : Bid) : b.rank.buyerId = b.buyerId := rfl

theorem isSome_amount (h : b.usable?.isSome = true) : b.amount.isSome = true := by
  rw [isSome_usable?] at h
  exact (Bool.and_eq_true_iff.mp h).2

/-- The order of two bids with amounts, by their keys. -/
theorem outranks_iff {x y : Float64.Word} (hx : a.amount = some x) (hy : b.amount = some y) :
    a.Outranks b ↔ b.rank.amount < a.rank.amount ∨ a.rank.amount = b.rank.amount ∧
      (b.priority < a.priority ∨ a.priority = b.priority ∧
        (a.responseTimeMs < b.responseTimeMs ∨ a.responseTimeMs = b.responseTimeMs ∧
          a.buyerId < b.buyerId)) := by
  have hsame : a.rank.amount = b.rank.amount ↔ a.amount = b.amount := by
    rw [rank_amount hx, rank_amount hy, hx, hy, Option.some.injEq]
    exact ⟨Float64.Word.orderKey_inj, congrArg _⟩
  have hlower : b.rank.amount < a.rank.amount ↔ Float64.Below y x := by
    rw [rank_amount hx, rank_amount hy]
    exact Float64.Word.orderKey_lt_iff
  rw [hsame, hlower]
  constructor
  · rintro (⟨hx', hy', hbelow⟩ | ⟨h, h'⟩ | ⟨h, hp, h'⟩ | ⟨h, hp, ht, h'⟩)
    · cases hx.symm.trans hx'
      cases hy.symm.trans hy'
      exact .inl hbelow
    · exact .inr ⟨h, .inl h'⟩
    · exact .inr ⟨h, .inr ⟨hp, .inl h'⟩⟩
    · exact .inr ⟨h, .inr ⟨hp, .inr ⟨ht, h'⟩⟩⟩
  · rintro (hbelow | ⟨h, h' | ⟨hp, h' | ⟨ht, h'⟩⟩⟩)
    · exact .amount hx hy hbelow
    · exact .priority h h'
    · exact .time h hp h'
    · exact .buyerId h hp ht h'

/-- A usable bid may stand before another unless that one outranks it. -/
theorem precedes_iff (ha : a.usable?.isSome = true) (hb : b.usable?.isSome = true) :
    a.rank.precedes b.rank = true ↔ ¬b.Outranks a := by
  obtain ⟨x, hx⟩ := Option.isSome_iff_exists.mp (isSome_amount ha)
  obtain ⟨y, hy⟩ := Option.isSome_iff_exists.mp (isSome_amount hb)
  have hid : ¬b.buyerId < a.buyerId ↔ a.buyerId ≤ b.buyerId := String.not_lt
  rw [outranks_iff hy hx]
  unfold Rank.precedes
  simp only [priority_rank, time_rank, buyerId_rank]
  grind

/-- **The ranking is the sorted list of the usable bids.** It holds each of them and no other, none
behind one that it stands before; the order in which they came in does not matter if no two are of
one buyer; and bids that cannot be taken up make no difference. -/
theorem ranking_sorted (bids : List Bid) :
    (ranking bids).Perm (bids.filter fun b => b.success && b.amount.isSome) ∧
    (ranking bids).Pairwise (fun a b => ¬b.Outranks a) ∧
    ((bids.map (·.buyerId)).Nodup → ∀ bids', bids.Perm bids' → ranking bids' = ranking bids) ∧
    ∀ bids', (bids'.filter fun b => b.success && b.amount.isSome) =
      (bids.filter fun b => b.success && b.amount.isSome) → ranking bids' = ranking bids := by
  simp only [← isSome_usable?]
  refine ⟨ranking_perm bids, ?_, ?_, ?_⟩
  · have hsorted := List.pairwise_mergeSort
      (fun a b c : Bid => Rank.precedes_trans a.rank b.rank c.rank)
      (fun a b => Rank.precedes_total a.rank b.rank) (bids.filter fun b => b.usable?.isSome)
    refine List.Pairwise.imp_of_mem ?_ hsorted
    intro a b ha hb hab
    exact (precedes_iff (mem_ranking.mp ha).2 (mem_ranking.mp hb).2).mp hab
  · intro hnodup bids' hperm
    exact (ranking_eq_of_perm hnodup hperm).symm
  · intro bids' h
    rw [ranking, ranking, h]

end PingPost.Bid

namespace PingPost

namespace Sample

/-- A bid of a buyer, with an amount if it is one that can be taken up. -/
def bid (buyerId : String) (amount : Option Float64.Word) : Bid :=
  ⟨buyerId, buyerId, amount.isSome, amount, 10, 1, none, none, false⟩

/-- Bids whose amounts are equal as numbers, or no numbers at all. -/
def bids : List Bid := [bid "alpha" (some (.ofFloat (-0))), bid "beta" (some .machineNaN),
  bid "gamma" (some (.ofFloat 0)), bid "epsilon" (some ⟨0x7FF8000000000000⟩)]

end Sample

open Sample in
theorem Bid.ranking_sorted_sample :
    (bids.map (·.buyerId)).Nodup ∧ bids.Perm bids.reverse ∧ ranking bids.reverse = ranking bids ∧
      ranking (bid "delta" none :: bids) = ranking bids ∧
      (bid "epsilon" (some ⟨0x7FF8000000000000⟩)).Outranks (bid "gamma" (some (.ofFloat 0))) ∧
      (bid "alpha" (some (.ofFloat (-0)))).Outranks (bid "beta" (some .machineNaN)) := by
  have hnodup : (bids.map (·.buyerId)).Nodup := by decide
  have hperm : bids.Perm bids.reverse := (List.reverse_perm bids).symm
  obtain ⟨-, -, horder, hunusable⟩ := ranking_sorted bids
  exact ⟨hnodup, hperm, horder hnodup _ hperm, hunusable _ rfl,
    .amount rfl rfl (.last (by decide) (by decide) (by decide)),
    .amount rfl rfl (.first (by decide) (by decide) (by decide))⟩

end PingPost
