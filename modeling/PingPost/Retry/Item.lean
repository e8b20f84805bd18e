import PingPost.Auction.Id
import PingPost.Lead.Basic
import PingPost.Retry.Policy
import PingPost.Vocabulary.Reading

/-!
Leads that wait to be offered again, and leads that were given up.

The backlog holds at most one item for a lead and a buyer.
-/

namespace PingPost

/-- A lead that waits to be offered to a buyer again. -/
structure RetryItem where
  lead : Lead
  buyerId : String
  auction : Option AuctionId
  bidAmount : Option Float64.Word
  /-- Position of the ledger entry about the POST that led to the retries. -/
  origin : Option Nat
  policy : RetryPolicy
  attempts : Nat
  nextAttemptAt : Instant
  lastError : Option String
  enqueuedAt : Instant

/-- Why a lead was given up. -/
inductive GivenUp where
  | disabled
  | answered (status : PostStatus)
  | noBidder
  | unregistered
  | ineligible
  | exhausted
  | other (text : String)
  deriving DecidableEq, Repr

/-- A lead that was given up. -/
structure DeadLetter where
  item : RetryItem
  reason : GivenUp

/-- The lead and the buyer of an item. -/
structure RetryKey where
  leadId : String
  buyerId : String
  deriving DecidableEq, Repr

/-- The waiting items by lead and buyer. -/
abbrev Backlog := Table RetryKey RetryItem

/-- Wording of a reason. -/
def GivenUp.message : GivenUp → String
  | .disabled => "retries disabled by policy"
  | .answered status => s!"buyer answered {status.name}"
  | .noBidder => "no eligible bidder at delivery"
  | .unregistered => "buyer no longer registered"
  | .ineligible => "buyer or service no longer eligible"
  | .exhausted => "retry attempts exhausted"
  | .other text => text

namespace RetryKey

/-- Order by lead, then by buyer. -/
def before (a b : RetryKey) : Bool :=
  a.leadId < b.leadId || (a.leadId == b.leadId && a.buyerId < b.buyerId)

instance : LT RetryKey := ⟨fun a b => a.before b = true⟩

instance : DecidableLT RetryKey := fun a b => inferInstanceAs (Decidable (a.before b = true))

theorem lt_iff {a b : RetryKey} :
    a < b ↔ a.leadId < b.leadId ∨ a.leadId = b.leadId ∧ a.buyerId < b.buyerId := by
  change a.before b = true ↔ _
  simp [before]

instance : Std.Irrefl (α := RetryKey) (· < ·) where
  irrefl a h := by
    rcases lt_iff.mp h with h | ⟨-, h⟩ <;> exact Std.Irrefl.irrefl _ h

instance : Trans (α := RetryKey) (· < ·) (· < ·) (· < ·) where
  trans {a b c} h h' := by
    rw [lt_iff] at h h' ⊢
    rcases h with h | ⟨heq, h⟩ <;> rcases h' with h' | ⟨heq', h'⟩
    · exact .inl (Trans.trans h h')
    · exact .inl (heq' ▸ h)
    · exact .inl (heq ▸ h')
    · exact .inr ⟨heq.trans heq', Trans.trans h h'⟩

instance : Std.Trichotomous (α := RetryKey) (· < ·) where
  trichotomous a b h h' := by
    rw [lt_iff, not_or, not_and] at h h'
    have hlead := Std.Trichotomous.trichotomous a.leadId b.leadId h.1 h'.1
    have hbuyer := Std.Trichotomous.trichotomous a.buyerId b.buyerId (h.2 hlead) (h'.2 hlead.symm)
    cases a
    cases b
    simp_all

end RetryKey

namespace RetryPolicy

/-- Milliseconds of 52 weeks. -/
def yearMs : Nat := 52 * 7 * 86400 * 1000

/-- The pause before an attempt: the delay, or 52 weeks if it is no signed 64-bit word. -/
def pauseMs (p : RetryPolicy) (attempt : Nat) : Nat :=
  let delay := p.delayMs attempt
  if delay < Nat.pow 2 63 then delay else yearMs

end RetryPolicy

namespace RetryItem

/-- An item that waits for its first attempt. An operation that makes one whose date lies behind
the end of the calendar has no outcome (`Exchange.outcome?`). -/
def fresh (lead : Lead) (buyerId : String) (policy : RetryPolicy) (now : Instant) : RetryItem where
  lead := lead
  buyerId := buyerId
  auction := none
  bidAmount := none
  origin := none
  policy := policy
  attempts := 0
  nextAttemptAt := now.addMillis (policy.pauseMs 1)
  lastError := none
  enqueuedAt := now

/-- The key of an item. -/
def key (i : RetryItem) : RetryKey := ⟨i.lead.id, i.buyerId⟩

/-- Whether an item is due. -/
def isDue (i : RetryItem) (now : Instant) : Bool := i.nextAttemptAt.le now

/-- Counts one attempt more. -/
def tried (i : RetryItem) : RetryItem := { i with attempts := i.attempts + 1 }

/-- Puts the next attempt off by the pause of the policy, to a date in the calendar like that of
the first one. -/
def reschedule (i : RetryItem) (now : Instant) : RetryItem :=
  { i with nextAttemptAt := now.addMillis (i.policy.pauseMs (i.attempts + 1)) }

/-- Order in which waiting items are shown: by time, then by key. -/
def precedes (a b : RetryItem) : Bool :=
  if a.nextAttemptAt = b.nextAttemptAt then !b.key.before a.key
  else a.nextAttemptAt.le b.nextAttemptAt

end RetryItem

namespace Backlog

/-- The keys of the items that are due. -/
def dueKeys (b : Backlog) (now : Instant) : List RetryKey :=
  (b.filter fun e => e.2.isDue now).map (·.1)

/-- The waiting items, the next one first. -/
def pending (b : Backlog) : List RetryItem := (b.map (·.2)).mergeSort RetryItem.precedes

end Backlog

end PingPost
