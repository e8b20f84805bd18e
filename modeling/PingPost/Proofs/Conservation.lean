import Mathlib.Data.List.Forall2
import PingPost.Proofs.Handover
import PingPost.Proofs.Settlement

/-!
A sweep loses no item and reports exactly.

`Swept` says what a sweep over some keys did to the books, item by item (`Treatment`); two sweeps
over different keys make one (`Swept.append`), so it is enough to look at the sweep of one key.
-/

namespace PingPost

variable {ω : Type}

/-! ### What a sweep does -/

/-- What a sweep did about one item. -/
structure Treatment where
  item : RetryItem
  attempted : Bool
  fate : SweepEnd
  /-- The item afterwards. -/
  left : RetryItem

namespace Treatment

/-- Only an attempt counts as one, and only an attempt delivers; an item that is put back waits for
the pause before its next attempt. -/
structure Lawful (t : Treatment) (now : Instant) : Prop where
  renewed : t.item.Renewed t.left t.attempted.toNat
  delivered : t.fate = .delivered → t.attempted = true
  rescheduled : t.fate = .rescheduled →
    t.left.nextAttemptAt = now.addMillis (t.left.policy.pauseMs (t.left.attempts + 1))

/-- The ledger entry about the attempt. -/
structure Recorded (t : Treatment) (e : Entry) : Prop where
  action : e.action = .retry
  auction : e.auction = t.item.auction
  leadId : e.leadId = t.item.lead.id
  buyerId : e.buyerId = t.item.buyerId
  label : e.label = .delivered ↔ t.fate = .delivered

end Treatment

/-- An item ends in one of three ways. -/
theorem countP_fates (ts : List Treatment) :
    ((ts.countP fun t => t.fate = .delivered) + (ts.countP fun t => t.fate = .rescheduled) +
      ts.countP fun t => t.fate = .deadLettered) = ts.length := by
  induction ts with
  | nil => rfl
  | cons t ts ih =>
    cases hfate : t.fate <;> simp [hfate] <;> omega

/-- A report after some treatments more. -/
structure SweepReport.Adds (r : SweepReport) (ts : List Treatment) (s : SweepReport) : Prop where
  attempted : s.attempted = r.attempted + ts.countP fun t => t.attempted
  delivered : s.delivered = r.delivered + ts.countP fun t => t.fate = .delivered
  rescheduled : s.rescheduled = r.rescheduled + ts.countP fun t => t.fate = .rescheduled
  deadLettered : s.deadLettered = r.deadLettered + ts.countP fun t => t.fate = .deadLettered

namespace SweepReport.Adds

variable {r s u : SweepReport} {ts us : List Treatment}

theorem refl (r : SweepReport) : r.Adds [] r := ⟨rfl, rfl, rfl, rfl⟩

theorem one (r : SweepReport) (t : Treatment) : r.Adds [t] (r.add t.attempted t.fate) := by
  constructor <;> simp [add, List.countP_singleton]

theorem append (h : r.Adds ts s) (h' : s.Adds us u) : r.Adds (ts ++ us) u where
  attempted := by rw [h'.attempted, h.attempted, List.countP_append, Nat.add_assoc]
  delivered := by rw [h'.delivered, h.delivered, List.countP_append, Nat.add_assoc]
  rescheduled := by rw [h'.rescheduled, h.rescheduled, List.countP_append, Nat.add_assoc]
  deadLettered := by rw [h'.deadLettered, h.deadLettered, List.countP_append, Nat.add_assoc]

end SweepReport.Adds

namespace Exchange

/-- What a sweep over some keys does to the books. -/
structure Swept (x : Exchange ω) (now : Instant) (keys : List RetryKey) (ts : List Treatment)
    (y : Exchange ω) : Prop where
  treated : ts.map (·.item.key) = keys
  found : ∀ t ∈ ts, x.backlog.get? t.item.key = some t.item
  lawful : ∀ t ∈ ts, t.Lawful now
  placed : ∀ t ∈ ts,
    y.backlog.get? t.item.key = if t.fate = .rescheduled then some t.left else none
  others : ∀ key ∉ keys, y.backlog.get? key = x.backlog.get? key
  deadLetters : ∃ letters, y.deadLetters = x.deadLetters ++ letters ∧
    letters.map (·.item) = (ts.filter fun t => t.fate = .deadLettered).map (·.left)
  ledger : ∃ es, y.ledger.map Entry.uncounted = (x.ledger ++ es).map Entry.uncounted ∧
    List.Forall₂ Treatment.Recorded (ts.filter (·.attempted)) es
  balance : y.backlog.length + y.deadLetters.length + (ts.countP fun t => t.fate = .delivered) =
    x.backlog.length + x.deadLetters.length
  wellKept : y.backlog.WellKept

namespace Swept

variable {x y z : Exchange ω} {now : Instant} {keys keys' : List RetryKey}
  {ts ts' : List Treatment}

theorem nil (hx : x.backlog.WellKept) : Swept x now [] [] x where
  treated := rfl
  found := by simp
  lawful := by simp
  placed := by simp
  others _ _ := rfl
  deadLetters := ⟨[], (List.append_nil _).symm, rfl⟩
  ledger := ⟨[], by rw [List.append_nil], .nil⟩
  balance := rfl
  wellKept := hx

/-- Two sweeps over different keys are one. -/
theorem append (h : Swept x now keys ts y) (h' : Swept y now keys' ts' z)
    (hdisjoint : keys.Disjoint keys') : Swept x now (keys ++ keys') (ts ++ ts') z where
  treated := by rw [List.map_append, h.treated, h'.treated]
  found := by
    refine List.forall_mem_append.mpr ⟨h.found, fun t ht => ?_⟩
    have hkey : t.item.key ∈ keys' := h'.treated ▸ List.mem_map_of_mem ht
    rw [← h.others _ fun hmem => hdisjoint hmem hkey, h'.found t ht]
  lawful := List.forall_mem_append.mpr ⟨h.lawful, h'.lawful⟩
  placed := by
    refine List.forall_mem_append.mpr ⟨fun t ht => ?_, h'.placed⟩
    have hkey : t.item.key ∈ keys := h.treated ▸ List.mem_map_of_mem ht
    rw [h'.others _ fun hmem => hdisjoint hkey hmem, h.placed t ht]
  others key hkey := by
    rw [List.mem_append, not_or] at hkey
    rw [h'.others key hkey.2, h.others key hkey.1]
  deadLetters := by
    obtain ⟨letters, hletters, hitems⟩ := h.deadLetters
    obtain ⟨letters', hletters', hitems'⟩ := h'.deadLetters
    refine ⟨letters ++ letters', by rw [hletters', hletters, List.append_assoc], ?_⟩
    rw [List.map_append, hitems, hitems', List.filter_append, List.map_append]
  ledger := by
    obtain ⟨es, hes, hrecorded⟩ := h.ledger
    obtain ⟨es', hes', hrecorded'⟩ := h'.ledger
    refine ⟨es ++ es', ?_, by rw [List.filter_append]; exact List.rel_append hrecorded hrecorded'⟩
    rw [hes', List.map_append, hes, ← List.map_append, List.append_assoc]
  balance := by
    rw [List.countP_append, ← h.balance, ← h'.balance]
    omega
  wellKept := h'.wellKept

/-- What touches no books may come before. -/
theorem after (hframe : x.Appends [] y) (h : Swept y now keys ts z) : Swept x now keys ts z where
  treated := h.treated
  found := hframe.backlog ▸ h.found
  lawful := h.lawful
  placed := h.placed
  others := hframe.backlog ▸ h.others
  deadLetters := hframe.deadLetters ▸ h.deadLetters
  ledger := by simpa only [hframe.ledger, List.append_nil] using h.ledger
  balance := by rw [h.balance, hframe.backlog, hframe.deadLetters]
  wellKept := h.wellKept

end Swept

/-! ### Every sweep -/

variable {x y : Exchange ω} {item : RetryItem} {attempted : Bool} {fate : SweepEnd}

theorem Worked.ledger (h : Worked x item attempted fate y) (left : RetryItem) :
    ∃ es, y.ledger.map Entry.uncounted = (x.ledger ++ es).map Entry.uncounted ∧
      List.Forall₂ Treatment.Recorded
        ([⟨item, attempted, fate, left⟩].filter (·.attempted)) es := by
  cases h with
  | spared => exact ⟨[], by rw [List.append_nil], .nil⟩
  | @tried fate p y htried hfate =>
    obtain ⟨label, hlabel, hframe⟩ := htried.recorded
    refine ⟨[p.toEntry item.lead.id label
      (.ofRetry item.auction item.bidAmount item.tried.attempts)], ?_,
      .cons ⟨rfl, rfl, rfl, htried.buyerId, hlabel.trans hfate.symm⟩ .nil⟩
    rw [hframe.ledger, List.map_append, (x.countRetry_recounts item.origin).ledger,
      ← List.map_append]

variable [Transport ω]

theorem sweepKey_swept (hx : x.backlog.WellKept) (report : SweepReport) {key : RetryKey}
    (now clock : Instant) (hitem : x.backlog.get? key = some item) :
    ∃ t, Swept x now [key] [t] (x.sweepKey report key now clock).2 ∧
      report.Adds [t] (x.sweepKey report key now clock).1 := by
  have hspec := (x.without key).treat_spec item now clock
  rw [sweepKey_eq report now clock hitem]
  generalize (x.without key).treat item now clock = outcome at hspec ⊢
  rcases outcome with ⟨attempted, fate, y⟩
  obtain ⟨left, v, hrenewed, hworked, hsettled⟩ := hspec.settled (hx.lt_maxAttempts hitem)
  have hkey := hx.key_eq hitem
  have hleft : left.key = key := hrenewed.key_eq.trans hkey
  have hbacklog : v.backlog = x.backlog.erase key := hworked.backlog
  have hdead : v.deadLetters = x.deadLetters := hworked.deadLetters
  have hnone : v.backlog.get? left.key = none := by
    rw [hleft, hbacklog, Table.get?_erase_self]
  refine ⟨⟨item, attempted, fate, left⟩, ?_, .one report _⟩
  exact {
    treated := congrArg (fun k => [k]) hkey
    found := List.forall_mem_singleton.mpr (hkey ▸ hitem)
    lawful := by
      refine List.forall_mem_singleton.mpr ⟨hrenewed, ?_, ?_⟩
      · rintro rfl
        cases hworked with
        | spared hne => exact (hne rfl).elim
        | tried => rfl
      · rintro rfl
        cases hsettled with
        | rescheduled hnext => exact hnext
    placed := by
      refine List.forall_mem_singleton.mpr ?_
      rw [hkey, ← hleft, hsettled.get?_self hnone]
    others := by
      intro k hk
      have hne : k ≠ key := fun heq => hk (heq ▸ List.mem_singleton_self _)
      rw [hsettled.get?_of_ne hnone (hleft ▸ hne), hbacklog, Table.get?_erase_of_ne hne]
    deadLetters := by
      obtain ⟨letters, hletters, hitems⟩ := hsettled.deadLetters
      refine ⟨letters, by rw [hletters, hdead], ?_⟩
      rw [hitems]
      cases fate <;> rfl
    ledger := by
      rw [hsettled.ledger]
      exact hworked.ledger left
    balance := by
      have hlen : (x.backlog.erase key).length + 1 = x.backlog.length :=
        hx.ordered.length_erase hitem
      have hbalance := hsettled.balance hnone
      rw [hbacklog, hdead] at hbalance
      simp only [List.countP_singleton, decide_eq_true_eq]
      omega
    wellKept := hsettled.wellKept (hbacklog ▸ hx.erase key) }

/-- A sweep treats the items of its keys one by one. -/
theorem sweepKeys_swept (hx : x.backlog.WellKept) (report : SweepReport) (now clock : Instant)
    {keys : List RetryKey} (hnodup : keys.Nodup)
    (hkeys : ∀ key ∈ keys, ∃ item, x.backlog.get? key = some item) :
    ∃ ts, Swept x now keys ts (x.sweepKeys report now clock keys).2 ∧
      report.Adds ts (x.sweepKeys report now clock keys).1 := by
  induction keys generalizing x report with
  | nil => exact ⟨[], .nil hx, .refl report⟩
  | cons key keys ih =>
    obtain ⟨hkey, hnodup⟩ := List.nodup_cons.mp hnodup
    obtain ⟨⟨item, hitem⟩, hkeys⟩ := List.forall_mem_cons.mp hkeys
    have hpause := x.interlude_appends
    obtain ⟨t, hone, hreport⟩ := sweepKey_swept (x := x.interlude) (hpause.backlog ▸ hx) report
      now clock (hpause.backlog ▸ hitem)
    have hone := hone.after hpause
    have hdisjoint : [key].Disjoint keys := List.singleton_disjoint.mpr hkey
    obtain ⟨ts, hrest, hreport'⟩ := ih hone.wellKept (x.interlude.sweepKey report key now clock).1
      hnodup fun k hk => by
        rw [hone.others k fun hmem => hdisjoint hmem hk]
        exact hkeys k hk
    exact ⟨t :: ts, hone.append hrest hdisjoint, hreport.append hreport'⟩

/-- What a sweep of all due items does to the books, and what it reports. -/
structure Conserved (x : Exchange ω) (now : Instant) (ts : List Treatment) (report : SweepReport)
    (y : Exchange ω) : Prop where
  /-- Every due item is treated, and none twice. -/
  due : (ts.map (·.item)).Perm (x.backlog.due now)
  lawful : ∀ t ∈ ts, t.Lawful now
  /-- The items that were put off are in the backlog again, the others are gone from it. -/
  placed : ∀ t ∈ ts,
    y.backlog.get? t.item.key = if t.fate = .rescheduled then some t.left else none
  untouched : ∀ key, (∀ item, x.backlog.get? key = some item → item.isDue now = false) →
    y.backlog.get? key = x.backlog.get? key
  /-- The items that were given up, each of them once, are the new dead letters. -/
  deadLetters : ∃ letters, y.deadLetters = x.deadLetters ++ letters ∧
    letters.map (·.item) = (ts.filter fun t => t.fate = .deadLettered).map (·.left)
  /-- The new entries of the ledger are about the attempts. -/
  attempts : ∃ es, y.ledger.map Entry.uncounted = (x.ledger ++ es).map Entry.uncounted ∧
    List.Forall₂ Treatment.Recorded (ts.filter (·.attempted)) es ∧ report.attempted = es.length
  reported : SweepReport.empty.Adds ts report
  total : report.delivered + report.rescheduled + report.deadLettered = (x.backlog.due now).length
  balance : x.backlog.length + x.deadLetters.length =
    y.backlog.length + y.deadLetters.length + report.delivered
  wellKept : y.backlog.WellKept

omit [Transport ω] in
theorem Swept.items_eq {ts : List Treatment} {keys : List RetryKey} {now : Instant}
    (h : Swept x now keys ts y) : ts.map (·.item) = keys.filterMap x.backlog.get? := by
  rw [← h.treated, List.filterMap_map]
  exact (List.filterMap_eq_map_iff_forall_eq_some.mpr h.found).symm

omit [Transport ω] in
/-- A sweep over the keys of all due items, in whatever order, treats all due items. -/
theorem Swept.conserved {ts : List Treatment} {keys : List RetryKey} {now : Instant}
    {report : SweepReport} (h : Swept x now keys ts y) (hreport : SweepReport.empty.Adds ts report)
    (hx : x.backlog.WellKept) (hkeys : keys.Perm (x.backlog.dueKeys now)) :
    Conserved x now ts report y := by
  have hdue : (ts.map (·.item)).Perm (x.backlog.due now) := by
    have hitems : (x.backlog.dueKeys now).filterMap x.backlog.get? = x.backlog.due now := by
      rw [hx.dueKeys_eq, List.filterMap_map]
      refine Eq.trans ?_ (List.map_id _)
      exact List.filterMap_eq_map_iff_forall_eq_some.mpr fun item => hx.get?_of_mem_due
    rw [h.items_eq, ← hitems]
    exact hkeys.filterMap _
  exact {
    due := hdue
    lawful := h.lawful
    placed := h.placed
    untouched := by
      refine fun key hkey => h.others key fun hmem => ?_
      obtain ⟨item, hitem, hdue⟩ := hx.mem_dueKeys.mp (hkeys.subset hmem)
      cases hdue.symm.trans (hkey item hitem)
    deadLetters := h.deadLetters
    attempts := by
      obtain ⟨es, hes, hrecorded⟩ := h.ledger
      refine ⟨es, hes, hrecorded, ?_⟩
      rw [hreport.attempted, ← hrecorded.length_eq, List.countP_eq_length_filter]
      exact Nat.zero_add _
    reported := hreport
    total := by
      have hfates := countP_fates ts
      rw [hreport.delivered, hreport.rescheduled, hreport.deadLettered, ← hdue.length_eq,
        List.length_map, ← hfates]
      simp only [SweepReport.empty, Nat.zero_add]
    balance := by
      rw [hreport.delivered, ← h.balance]
      simp only [SweepReport.empty, Nat.zero_add]
    wellKept := h.wellKept }

/-- **A sweep that is taken to its end loses no item and reports exactly**, in whatever order it
takes the due items. -/
theorem sweepKeys_conserved (hx : x.backlog.WellKept) (now clock : Instant) {keys : List RetryKey}
    (hkeys : keys.Perm (x.backlog.dueKeys now)) :
    ∃ ts, Conserved x now ts (x.sweepKeys .empty now clock keys).1
      (x.sweepKeys .empty now clock keys).2 := by
  have hfound : ∀ key ∈ keys, ∃ item, x.backlog.get? key = some item := by
    intro key hkey
    obtain ⟨item, hitem, -⟩ := hx.mem_dueKeys.mp (hkeys.subset hkey)
    exact ⟨item, hitem⟩
  obtain ⟨ts, hswept, hreport⟩ := sweepKeys_swept hx .empty now clock
    (hkeys.nodup_iff.mpr hx.dueKeys_nodup) hfound
  exact ⟨ts, hswept.conserved hreport hx hkeys⟩

end Exchange

end PingPost
