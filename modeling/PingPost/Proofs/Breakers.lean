import Mathlib.Data.List.Basic
import Mathlib.Data.List.Induction
import PingPost.Transport.Client

/-!
When a buyer may be called.

The client is told nothing but which calls were made and how they ended, and what it answers follows
from that alone. `Client.history` keeps, of all that was asked of a client and answered by it, the
guarded calls that were made to a buyer since its last reset. The buyer is unavailable just when
these end with as many failures in a row as the limits of the first of them say
(`Client.Tripped`), whatever was asked about other buyers in between.

Of the make of the breakers only three things are used (`CountsFailures`); the one in use has them.
-/

namespace PingPost

/-! ### Breakers -/

/-- The breaker for a threshold after some calls, of each of which it is said whether it failed. -/
def CircuitBreaker.after (β : Type) [CircuitBreaker β] (threshold : Nat) (calls : List Bool) : β :=
  calls.foldl note (closed threshold)

theorem CircuitBreaker.after_concat {β : Type} [CircuitBreaker β] (threshold : Nat)
    (calls : List Bool) (failed : Bool) :
    after β threshold (calls ++ [failed]) = note (after β threshold calls) failed := by
  rw [after, List.foldl_append]
  rfl

open CircuitBreaker in
/-- What is relied on of a make of breakers, while no time passes. -/
class CountsFailures (β : Type) [CircuitBreaker β] : Prop where
  /-- A new breaker is closed. -/
  permits_closed {threshold : Nat} : 0 < threshold → permits (closed threshold : β) = true
  /-- A success leaves it closed. -/
  permits_success {threshold : Nat} {calls : List Bool} : 0 < threshold →
    permits (after β threshold calls) = true →
    permits (after β threshold (calls ++ [false])) = true
  /-- The failure opens it that completes as many in a row as the threshold says. -/
  permits_failure {threshold : Nat} {calls : List Bool} : 0 < threshold →
    permits (after β threshold calls) = true →
    (permits (after β threshold (calls ++ [true])) = false ↔
      List.replicate threshold true <:+ calls ++ [true])

/-- How many failures in a row come last. -/
def lastFailures (calls : List Bool) : Nat := (calls.reverse.takeWhile id).length

theorem lastFailures_concat (calls : List Bool) (failed : Bool) :
    lastFailures (calls ++ [failed]) = if failed then lastFailures calls + 1 else 0 := by
  cases failed <;> simp [lastFailures]

theorem replicate_suffix_iff {n : Nat} {calls : List Bool} :
    List.replicate n true <:+ calls ↔ n ≤ lastFailures calls := by
  induction calls using List.reverseRecOn generalizing n with
  | nil => simp [lastFailures]
  | append_singleton calls failed ih =>
    rw [lastFailures_concat]
    cases n with
    | zero => simp
    | succ n =>
      rw [List.replicate_succ', List.suffix_concat_iff]
      cases failed <;> simp [ih]

namespace Breaker

open CircuitBreaker

theorem note_of_open {b : Breaker} (h : b.open_ = true) (failed : Bool) : b.note failed = b :=
  if_pos h

theorem note_success {b : Breaker} (h : b.open_ = false) :
    b.note false = { b with failures := 0 } := by
  simp [note, h]

theorem note_failure {b : Breaker} (h : b.open_ = false) :
    b.note true =
      { b with failures := b.failures + 1, open_ := b.threshold ≤ b.failures + 1 } := by
  simp [note, h]

theorem permits_iff {b : Breaker} : CircuitBreaker.permits b = true ↔ b.open_ = false := by
  change (!b.open_) = true ↔ _
  rw [Bool.not_eq_true']

theorem after_note (threshold : Nat) (calls : List Bool) (failed : Bool) :
    after Breaker threshold (calls ++ [failed]) = (after Breaker threshold calls).note failed :=
  after_concat threshold calls failed

/-- A breaker keeps its threshold, and while it is closed has counted the failures that came
last. -/
theorem after_counts (threshold : Nat) (calls : List Bool) :
    (after Breaker threshold calls).threshold = max threshold 1 ∧
      ((after Breaker threshold calls).open_ = false →
        (after Breaker threshold calls).failures = lastFailures calls) := by
  induction calls using List.reverseRecOn with
  | nil => exact ⟨rfl, fun _ => rfl⟩
  | append_singleton calls failed ih =>
    obtain ⟨hthreshold, hfailures⟩ := ih
    rw [after_note, lastFailures_concat]
    cases hopen : (after Breaker threshold calls).open_ with
    | true =>
      rw [note_of_open hopen]
      exact ⟨hthreshold, fun hclosed => by rw [hopen] at hclosed; cases hclosed⟩
    | false =>
      cases failed with
      | false =>
        rw [note_success hopen]
        exact ⟨hthreshold, fun _ => rfl⟩
      | true =>
        rw [note_failure hopen]
        exact ⟨hthreshold, fun _ => congrArg (· + 1) (hfailures hopen)⟩

instance : CountsFailures Breaker where
  permits_closed _ := rfl
  permits_success {threshold calls} _ hclosed := by
    have hopen := permits_iff.mp hclosed
    rw [after_note, permits_iff, note_success hopen]
    exact hopen
  permits_failure {threshold calls} hpos hclosed := by
    have hopen := permits_iff.mp hclosed
    obtain ⟨hthreshold, hfailures⟩ := after_counts threshold calls
    rw [replicate_suffix_iff, lastFailures_concat, ← Bool.not_eq_true, permits_iff, after_note,
      note_failure hopen, hthreshold, hfailures hopen, Nat.max_eq_left hpos]
    simp

end Breaker

/-! ### Clients -/

/-- How a call that was made ends. -/
inductive CallEnd where
  | reply (r : Reply)
  | timeout (ms : Nat)
  | connection (text : String)

namespace CallEnd

/-- What the caller is told of the end. -/
def outcome : CallEnd → Except TransportError Reply
  | .reply r => .ok r
  | .timeout ms => .error (.timeout ms)
  | .connection text => .error (.connection text)

/-- Whether the call failed: there was no answer, or an error of the server. -/
def failed : CallEnd → Bool
  | .reply r => 500 ≤ r.code
  | .timeout _ => true
  | .connection _ => true

theorem isFailure_outcome (ending : CallEnd) :
    Client.isFailure ending.outcome = ending.failed := by
  cases ending <;> rfl

theorem outcome_ne_circuitOpen (ending : CallEnd) (buyerId : String) :
    ending.outcome ≠ .error (.circuitOpen buyerId) := by
  cases ending <;> simp [outcome]

end CallEnd

namespace Client

/-- What is asked of a client. A call carries how it ends if it is made. -/
inductive Op where
  | send (buyerId : String) (settings : Settings) (ending : CallEnd)
  | ask (buyerId : String)
  | reset (buyerId : String)

/-- The buyer that something is asked about. -/
def Op.buyerId : Op → String
  | .send buyerId .. => buyerId
  | .ask buyerId => buyerId
  | .reset buyerId => buyerId

/-- What a client answers. -/
inductive Answer where
  | ended (outcome : Except TransportError Reply)
  | available (answer : Bool)
  | done

/-- Whether a call was refused. -/
def Answer.refused : Answer → Bool
  | .ended (.error (.circuitOpen _)) => true
  | _ => false

/-- A call that was made under a breaker, and whether it failed. -/
structure GuardedCall where
  settings : Settings
  failed : Bool

/-- As many failures in a row as the limits of a call say; at least one. -/
def GuardedCall.threshold (call : GuardedCall) : Nat := max 1 call.settings.failureThreshold

/-- Adds to the guarded calls made to a buyer since its last reset what was asked of a client and
what it answered. -/
def note (b : String) (calls : List GuardedCall) : Op × Answer → List GuardedCall
  | (.send buyerId settings ending, answer) =>
    if buyerId = b ∧ settings.failover = true ∧ answer.refused = false then
      calls ++ [⟨settings, ending.failed⟩]
    else calls
  | (.ask _, _) => calls
  | (.reset buyerId, _) => if buyerId = b then [] else calls

/-- The guarded calls made to a buyer since its last reset. -/
def history (b : String) (log : List (Op × Answer)) : List GuardedCall := log.foldl (note b) []

/-- Whether calls end with as many failures in a row as the limits of the first of them say. -/
def Tripped (calls : List GuardedCall) : Prop :=
  ∃ first ∈ calls.head?, List.replicate first.threshold true <:+ calls.map (·.failed)

variable {β : Type} [CircuitBreaker β]

/-- What a client answers, and what becomes of it. -/
def serve (c : Client β) : Op → Answer × Client β
  | .send buyerId settings ending =>
    let (outcome, c') := c.send buyerId settings ending.outcome
    (.ended outcome, c')
  | .ask buyerId => (.available (c.isAvailable buyerId), c)
  | .reset buyerId => (.done, c.reset buyerId)

/-- What is asked of a client one after the other with its answers, and what becomes of it. -/
def run (c : Client β) : List Op → List (Op × Answer) × Client β
  | [] => ([], c)
  | op :: ops =>
    let (answer, c') := c.serve op
    let (log, c'') := c'.run ops
    ((op, answer) :: log, c'')

/-! ### A call -/

theorem send_unguarded {settings : Settings} (h : settings.failover = false) (c : Client β)
    (b : String) (outcome : Except TransportError Reply) :
    c.send b settings outcome = (outcome, c) := by
  simp [send, h]

/-- A call that is let through. -/
theorem send_permitted {c : Client β} {b : String} {settings : Settings}
    (h : settings.failover = true) (hpermits : CircuitBreaker.permits (c.guard b settings) = true)
    (outcome : Except TransportError Reply) :
    c.send b settings outcome =
      (outcome, ⟨c.breakers.put b
        (CircuitBreaker.note (c.guard b settings) (isFailure outcome))⟩) := by
  simp [send, h, hpermits]

/-- A call that is not let through. -/
theorem send_refused {c : Client β} {b : String} {settings : Settings}
    (h : settings.failover = true) (hpermits : CircuitBreaker.permits (c.guard b settings) = false)
    (outcome : Except TransportError Reply) :
    c.send b settings outcome =
      (.error (.circuitOpen b), ⟨c.breakers.put b (c.guard b settings)⟩) := by
  simp [send, h, hpermits]

theorem isAvailable_of_get? {c c' : Client β} {b : String}
    (h : c'.breakers.get? b = c.breakers.get? b) : c'.isAvailable b = c.isAvailable b := by
  rw [isAvailable, isAvailable, h]

/-- The breaker that guards a call lets it through just when the buyer is available: if it is made
for this call, it is closed. -/
theorem permits_guard [CountsFailures β] (c : Client β) (b : String) (settings : Settings) :
    CircuitBreaker.permits (c.guard b settings) = c.isAvailable b := by
  rw [guard, isAvailable]
  cases c.breakers.get? b with
  | some breaker => rfl
  | none => exact CountsFailures.permits_closed (by omega)

/-- The breakers of other buyers stay as they are. -/
theorem get?_serve_of_ne {b : String} {op : Op} (h : op.buyerId ≠ b) (c : Client β) :
    (c.serve op).2.breakers.get? b = c.breakers.get? b := by
  cases op with
  | ask => rfl
  | reset b' => exact Table.get?_erase_of_ne h.symm _
  | send b' settings ending =>
    change (c.send b' settings ending.outcome).2.breakers.get? b = _
    unfold send
    dsimp only
    split
    · split
      · exact Table.get?_put_of_ne h.symm ..
      · exact Table.get?_put_of_ne h.symm ..
    · rfl

/-- A guarded call is refused just when the buyer is unavailable. -/
theorem send_outcome [CountsFailures β] (c : Client β) (b : String) (settings : Settings)
    (ending : CallEnd) :
    (c.send b settings ending.outcome).1 =
      if settings.failover = true ∧ c.isAvailable b = false then .error (.circuitOpen b)
      else ending.outcome := by
  cases hfailover : settings.failover with
  | false => simp [send_unguarded hfailover c]
  | true =>
    cases havailable : c.isAvailable b with
    | true => simp [send_permitted hfailover ((permits_guard c b settings).trans havailable)]
    | false => simp [send_refused hfailover ((permits_guard c b settings).trans havailable)]

theorem refused_iff [CountsFailures β] (c : Client β) (b : String) (settings : Settings)
    (ending : CallEnd) :
    (c.serve (.send b settings ending)).1.refused = true ↔
      settings.failover = true ∧ c.isAvailable b = false := by
  change (Answer.ended (c.send b settings ending.outcome).1).refused = true ↔ _
  rw [send_outcome]
  split
  · exact iff_of_true rfl ‹_›
  · refine iff_of_false ?_ ‹_›
    cases ending <;> simp [CallEnd.outcome, Answer.refused]

/-- A refused call leaves the breaker as it is: a breaker made for it would have let it through. -/
theorem get?_send_of_refused [CountsFailures β] {c : Client β} {b : String} {settings : Settings}
    (hfailover : settings.failover = true) (hunavailable : c.isAvailable b = false)
    (outcome : Except TransportError Reply) :
    (c.send b settings outcome).2.breakers.get? b = c.breakers.get? b := by
  rw [send_refused hfailover ((permits_guard c b settings).trans hunavailable),
    Table.get?_put_self, guard]
  cases hget : c.breakers.get? b with
  | some breaker => rfl
  | none => simp [isAvailable, hget] at hunavailable

/-! ### What the client keeps -/

/-- Whether the breaker of a buyer is the one that some calls lead to, and is open if they trip
it. -/
structure Agrees (c : Client β) (b : String) (calls : List GuardedCall) : Prop where
  breaker : c.breakers.get? b =
    calls.head?.map fun first => CircuitBreaker.after β first.threshold (calls.map (·.failed))
  unavailable_iff : c.isAvailable b = false ↔ Tripped calls

theorem Agrees.of_none {c : Client β} {b : String} (h : c.breakers.get? b = none) :
    Agrees c b [] where
  breaker := h
  unavailable_iff := by simp [isAvailable, h, Tripped]

theorem Agrees.congr {c c' : Client β} {b : String} {calls : List GuardedCall}
    (h : Agrees c b calls) (hget : c'.breakers.get? b = c.breakers.get? b) :
    Agrees c' b calls where
  breaker := hget.trans h.breaker
  unavailable_iff := isAvailable_of_get? hget ▸ h.unavailable_iff

theorem GuardedCall.threshold_pos (call : GuardedCall) : 0 < call.threshold := by
  rw [threshold]
  omega

variable [CountsFailures β]

/-- A breaker that was closed trips with the call that completes the failures in a row. -/
theorem permits_after_concat {threshold : Nat} {calls : List Bool} (hpos : 0 < threshold)
    (h : CircuitBreaker.permits (CircuitBreaker.after β threshold calls) = true) (failed : Bool) :
    CircuitBreaker.permits (CircuitBreaker.after β threshold (calls ++ [failed])) = false ↔
      List.replicate threshold true <:+ calls ++ [failed] := by
  cases failed with
  | true => exact CountsFailures.permits_failure hpos h
  | false =>
    refine iff_of_false (by simp [CountsFailures.permits_success hpos h]) ?_
    rw [replicate_suffix_iff, lastFailures_concat]
    simpa using Nat.pos_iff_ne_zero.mp hpos

/-- A call that is made. -/
theorem Agrees.executed {c : Client β} {b : String} {calls : List GuardedCall}
    (h : Agrees c b calls) {settings : Settings} (hfailover : settings.failover = true)
    (havailable : c.isAvailable b = true) (ending : CallEnd) :
    Agrees (c.send b settings ending.outcome).2 b (calls ++ [⟨settings, ending.failed⟩]) := by
  have hpermits : CircuitBreaker.permits (c.guard b settings) = true :=
    (permits_guard c b settings).trans havailable
  obtain ⟨first, hfirst, hguard⟩ : ∃ first : GuardedCall,
      (calls ++ [(⟨settings, ending.failed⟩ : GuardedCall)]).head? = some first ∧
        c.guard b settings = CircuitBreaker.after β first.threshold (calls.map (·.failed)) := by
    cases calls with
    | nil =>
      refine ⟨⟨settings, ending.failed⟩, rfl, ?_⟩
      rw [guard, h.breaker, GuardedCall.threshold, Nat.max_comm]
      rfl
    | cons first calls =>
      refine ⟨first, rfl, ?_⟩
      rw [guard, h.breaker]
      rfl
  have hget : (c.send b settings ending.outcome).2.breakers.get? b =
      some (CircuitBreaker.after β first.threshold (calls.map (·.failed) ++ [ending.failed])) := by
    rw [send_permitted hfailover hpermits, Table.get?_put_self, ending.isFailure_outcome, hguard,
      CircuitBreaker.after_concat]
  refine ⟨by rw [hget, hfirst, List.map_append]; rfl, ?_⟩
  rw [isAvailable, hget, Tripped, hfirst, List.map_append]
  exact (permits_after_concat first.threshold_pos (hguard ▸ hpermits) ending.failed).trans
    (by simp)

/-- What one step preserves. -/
theorem Agrees.serve {c : Client β} {b : String} {calls : List GuardedCall}
    (h : Agrees c b calls) (op : Op) :
    Agrees (c.serve op).2 b (note b calls (op, (c.serve op).1)) := by
  by_cases hbuyer : op.buyerId = b
  · cases op with
    | ask => exact h
    | reset b' =>
      obtain rfl : b' = b := hbuyer
      rw [note, if_pos rfl]
      exact .of_none (Table.get?_erase_self _ _)
    | send b' settings ending =>
      obtain rfl : b' = b := hbuyer
      have hrefused := refused_iff c b' settings ending
      change Agrees (c.send b' settings ending.outcome).2 b' _
      cases hfailover : settings.failover with
      | false =>
        rw [note, if_neg (by simp [hfailover]), send_unguarded hfailover]
        exact h
      | true =>
        cases havailable : c.isAvailable b' with
        | true =>
          rw [note, if_pos (by simp [hfailover, ← Bool.not_eq_true, hrefused, havailable])]
          exact h.executed hfailover havailable ending
        | false =>
          rw [note, if_neg (by simp [hrefused, hfailover, havailable])]
          exact h.congr (get?_send_of_refused hfailover havailable _)
  · have hnote : note b calls (op, (c.serve op).1) = calls := by
      cases op with
      | ask => rfl
      | reset => exact if_neg hbuyer
      | send => exact if_neg fun h => hbuyer h.1
    rw [hnote]
    exact h.congr (get?_serve_of_ne hbuyer c)

/-- What a run preserves. -/
theorem Agrees.run {c : Client β} {b : String} {calls : List GuardedCall}
    (h : Agrees c b calls) (ops : List Op) :
    Agrees (c.run ops).2 b ((c.run ops).1.foldl (note b) calls) := by
  induction ops generalizing c calls with
  | nil => exact h
  | cons op ops ih => exact ih (h.serve op)

/-! ### Availability -/

/-- What can be asked of a client without a call being made under the breaker of a buyer. -/
inductive Op.Idle (c : Client β) (b : String) : Op → Prop
  | other {op : Op} : op.buyerId ≠ b → Idle c b op
  | asked : Idle c b (.ask b)
  | unguarded {settings : Settings} {ending : CallEnd} :
      settings.failover = false → Idle c b (.send b settings ending)
  | refused {settings : Settings} {ending : CallEnd} :
      (c.serve (.send b settings ending)).1.refused = true → Idle c b (.send b settings ending)

theorem Op.Idle.isAvailable {c : Client β} {b : String} {op : Op} (h : op.Idle c b) :
    (c.serve op).2.isAvailable b = c.isAvailable b := by
  cases h with
  | other hbuyer => exact isAvailable_of_get? (get?_serve_of_ne hbuyer c)
  | asked => rfl
  | unguarded hfailover =>
    change (c.send b _ _).2.isAvailable b = _
    rw [send_unguarded hfailover]
  | refused hrefused =>
    obtain ⟨hfailover, hunavailable⟩ := (refused_iff c b _ _).mp hrefused
    exact isAvailable_of_get? (get?_send_of_refused hfailover hunavailable _)

/-- **Whether a buyer is available follows from the guarded calls made to it since its last
reset**, whatever is asked of a client and in whatever order. -/
theorem run_bookkeeping (ops : List Op) (b : String) :
    let (log, c) := (fresh : Client β).run ops
    (c.isAvailable b = false ↔ Tripped (history b log)) ∧
      (∀ settings ending,
        ((c.serve (.send b settings ending)).1 = .ended (.error (.circuitOpen b)) ↔
          settings.failover = true ∧ c.isAvailable b = false) ∧
        (¬(settings.failover = true ∧ c.isAvailable b = false) →
          (c.serve (.send b settings ending)).1 = .ended ending.outcome)) ∧
      (c.serve (.ask b)).1 = .available (c.isAvailable b) ∧
      (∀ op : Op, op.Idle c b → (c.serve op).2.isAvailable b = c.isAvailable b) ∧
      (c.serve (.reset b)).2.isAvailable b = true := by
  have hagrees : Agrees (fresh : Client β) b [] := .of_none rfl
  generalize hrun : (fresh : Client β).run ops = r
  obtain ⟨log, c⟩ := r
  have hunavailable := (hagrees.run ops).unavailable_iff
  rw [hrun] at hunavailable
  refine ⟨hunavailable, fun settings ending => ?_, rfl, fun op hop => hop.isAvailable, ?_⟩
  · change (Answer.ended (c.send b settings ending.outcome).1 = _ ↔ _) ∧
      (_ → Answer.ended (c.send b settings ending.outcome).1 = _)
    rw [send_outcome]
    split
    · exact ⟨iff_of_true rfl ‹_›, fun h => absurd ‹_› h⟩
    · refine ⟨iff_of_false (fun heq => ?_) ‹_›, fun _ => rfl⟩
      exact ending.outcome_ne_circuitOpen b (Answer.ended.inj heq)
  · have hreset : (c.reset b).breakers.get? b = none := Table.get?_erase_self _ _
    change (c.reset b).isAvailable b = true
    rw [isAvailable, hreset]

/-- Calls to two buyers. Two to the first one fail in a row, the second of them under wider limits;
the third is not made. -/
def Op.samples : List Op :=
  [.ask "alpha",
    .send "alpha" { Settings.standard with failureThreshold := 2 } (.reply ⟨503, "", 0⟩),
    .send "beta" .standard (.reply ⟨200, "", 0⟩),
    .send "alpha" .standard (.timeout 3000),
    .send "alpha" .standard (.reply ⟨200, "", 0⟩)]

/-- The first of the two buyers is unavailable then, by the limits of its first call, and the second
is not. -/
theorem run_bookkeeping_samples :
    ((fresh : Client Breaker).run Op.samples).2.isAvailable "alpha" = false ∧
      ((fresh : Client Breaker).run Op.samples).2.isAvailable "beta" = true := by
  have halpha := (run_bookkeeping (β := Breaker) Op.samples "alpha").1
  have hbeta := (run_bookkeeping (β := Breaker) Op.samples "beta").1
  refine ⟨halpha.mpr ⟨⟨{ Settings.standard with failureThreshold := 2 }, true⟩, rfl, ?_⟩,
    Bool.of_not_eq_false fun h => ?_⟩
  · decide
  · obtain ⟨first, hfirst, htripped⟩ := hbeta.mp h
    cases hfirst
    exact absurd htripped (by decide)

end Client

end PingPost
