import PingPost.Auction.Id
import PingPost.Vocabulary.Reading

/-!
The ledger: a record of every interaction with a buyer, in order. Entries are only added; of an
entry nothing ever changes but the number of retries it led to.
-/

namespace PingPost

/-- What was done. -/
inductive Action where
  | ping
  | post
  | webhook
  | retry
  /-- A bidder was passed over. -/
  | delivery
  deriving DecidableEq, Repr

/-- Whether the lead was won. -/
inductive Outcome where
  | won
  | lost
  | none
  deriving DecidableEq, Repr

/-- How it ended. -/
inductive Label where
  | accepted
  | rejected
  | error
  | delivered
  | failed
  | duplicate
  | invalid
  | timeout
  | circuitOpen
  | skipped
  deriving DecidableEq, Repr

/-- A record of one interaction. -/
structure Entry where
  auction : Option AuctionId
  leadId : String
  buyerId : String
  action : Action
  label : Label
  bidAmount : Option Float64.Word
  code : Option Nat
  responseTimeMs : Nat
  error : Option String
  outcome : Outcome
  retryCount : Nat

/-- The records in order; an entry is known by its position. -/
abbrev Ledger := List Entry

/-- Name of an action. -/
def Action.name : Action → String
  | .ping => "PING"
  | .post => "POST"
  | .webhook => "WEBHOOK"
  | .retry => "RETRY"
  | .delivery => "DELIVERY"

/-- Name of an outcome. -/
def Outcome.name : Outcome → String
  | .won => "won"
  | .lost => "lost"
  | .none => "none"

/-- Name of an end. -/
def Label.name : Label → String
  | .accepted => "accepted"
  | .rejected => "rejected"
  | .error => "error"
  | .delivered => "delivered"
  | .failed => "failed"
  | .duplicate => "duplicate"
  | .invalid => "invalid"
  | .timeout => "timeout"
  | .circuitOpen => "circuit_open"
  | .skipped => "skipped"

/-- The end that a verdict on a PING is. -/
def PingStatus.label : PingStatus → Label
  | .accepted => .accepted
  | .rejected => .rejected
  | .error => .error

/-- The end that a verdict on a POST is. -/
def PostStatus.label : PostStatus → Label
  | .delivered => .delivered
  | .failed => .failed
  | .duplicate => .duplicate
  | .invalid => .invalid

@[simp] theorem PostStatus.label_eq_delivered {s : PostStatus} :
    s.label = .delivered ↔ s = .delivered := by
  cases s <;> simp [PostStatus.label]

@[simp] theorem PingStatus.label_ne_delivered (s : PingStatus) : s.label ≠ .delivered := by
  cases s <;> simp [PingStatus.label]

/-- An entry without the number of retries it led to, which is all that may change of it. -/
def Entry.uncounted (e : Entry) : Entry := { e with retryCount := 0 }

namespace Ledger

/-- Counts one retry more for the entry at a position. -/
def countRetry : Ledger → Nat → Ledger
  | [], _ => []
  | e :: rest, 0 => { e with retryCount := e.retryCount + 1 } :: rest
  | e :: rest, i + 1 => e :: countRetry rest i

/-- The entries of a lead. -/
def ofLead (l : Ledger) (leadId : String) : List (Nat × Entry) :=
  (l.zipIdx.map fun (e, i) => (i, e)).filter fun e => e.2.leadId == leadId

theorem getElem?_countRetry (l : Ledger) (i n : Nat) :
    (countRetry l i)[n]? =
      l[n]?.map fun e => if n = i then { e with retryCount := e.retryCount + 1 } else e := by
  induction l generalizing i n with
  | nil => simp [countRetry]
  | cons e l ih => cases i <;> cases n <;> simp [countRetry, ih]

/-- A choice of entries that leaves out the counted one is the same as before. -/
theorem filter_countRetry {p : Entry → Bool} {l : Ledger} {i : Nat}
    (h : ∀ e, l[i]? = some e → p e = false ∧ p { e with retryCount := e.retryCount + 1 } = false) :
    (countRetry l i).filter p = l.filter p := by
  induction l generalizing i with
  | nil => rfl
  | cons e l ih =>
    cases i with
    | zero =>
      obtain ⟨hbefore, hafter⟩ := h e rfl
      simp [countRetry, hbefore, hafter]
    | succ i => simp only [countRetry, List.filter_cons, ih fun f hf => h f hf]

@[simp] theorem length_countRetry (l : Ledger) (i : Nat) : (countRetry l i).length = l.length := by
  induction l generalizing i with
  | nil => rfl
  | cons e l ih => cases i <;> simp [countRetry, ih]

@[simp] theorem map_uncounted_countRetry (l : Ledger) (i : Nat) :
    (countRetry l i).map Entry.uncounted = l.map Entry.uncounted := by
  induction l generalizing i with
  | nil => rfl
  | cons e l ih =>
    cases i with
    | zero => rfl
    | succ i => simp [countRetry, ih]

/-- Entries may be counted by what does not change of them. -/
theorem countP_congr_uncounted {p : Entry → Bool} {l l' : Ledger}
    (hp : ∀ e : Entry, p e.uncounted = p e)
    (h : l.map Entry.uncounted = l'.map Entry.uncounted) : l.countP p = l'.countP p := by
  have huncounted (l : Ledger) : (l.map Entry.uncounted).countP p = l.countP p := by
    rw [List.countP_map]
    exact List.countP_congr fun e _ => by rw [Function.comp_apply, hp]
  rw [← huncounted l, h, huncounted]

end Ledger

end PingPost
