import PingPost.Proofs.Coherence
import PingPost.Proofs.SteadySweeps

/-!
A sweep does not depend on the order in which it takes the items.

In a steady world a sweep makes, for each of its keys, the change that is decided about the key's
item (`Exchange.Decides`). The changes add up (`Exchange.SweptBy`), and no sum but that of the lists
of new entries and new dead letters sees the order of its terms. So two sweeps that take the due
items in different orders end alike but for the order of these lists, or break off both
(`Exchange.sweepKeys?_rel`).
-/

namespace PingPost

/-! ### Sums of changes -/

namespace Ledger

variable {l es : Ledger} {i : Nat} {positions : List Nat}

theorem countRetry_of_length_le (h : l.length ≤ i) : countRetry l i = l := by
  induction l generalizing i with
  | nil => rfl
  | cons e l ih =>
    cases i with
    | zero => cases h
    | succ i => rw [countRetry, ih (Nat.le_of_succ_le_succ h)]

/-- An entry is counted for in a front part of the ledger, or nowhere. -/
theorem countRetry_append (h : i < l.length ∨ l.length + es.length ≤ i) :
    countRetry (l ++ es) i = countRetry l i ++ es := by
  rcases h with h | h
  · induction l generalizing i with
    | nil => cases h
    | cons e l ih =>
      cases i with
      | zero => rfl
      | succ i => rw [List.cons_append, countRetry, ih (Nat.lt_of_succ_lt_succ h)]; rfl
  · rw [countRetry_of_length_le (by simpa using h),
      countRetry_of_length_le (Nat.le_trans (Nat.le_add_right _ _) h)]

theorem countRetry_comm (l : Ledger) (i j : Nat) :
    countRetry (countRetry l i) j = countRetry (countRetry l j) i := by
  refine List.ext_getElem? fun n => ?_
  simp only [getElem?_countRetry, Option.map_map]
  congr 1
  funext e
  simp only [Function.comp_apply]
  split <;> split <;> simp_all

@[simp] theorem length_countAll (l : Ledger) (positions : List Nat) :
    (countAll l positions).length = l.length := by
  unfold countAll
  induction positions generalizing l with
  | nil => rfl
  | cons i positions ih => rw [List.foldl_cons, ih, length_countRetry]

theorem map_uncounted_countAll (l : Ledger) (positions : List Nat) :
    (countAll l positions).map Entry.uncounted = l.map Entry.uncounted := by
  unfold countAll
  induction positions generalizing l with
  | nil => rfl
  | cons i positions ih => rw [List.foldl_cons, ih, map_uncounted_countRetry]

theorem countAll_append (h : ∀ i ∈ positions, i < l.length ∨ l.length + es.length ≤ i) :
    countAll (l ++ es) positions = countAll l positions ++ es := by
  unfold countAll
  induction positions generalizing l with
  | nil => rfl
  | cons i positions ih =>
    obtain ⟨hi, hpositions⟩ := List.forall_mem_cons.mp h
    rw [List.foldl_cons, List.foldl_cons, countRetry_append hi, ih]
    simpa using hpositions

theorem countAll_perm {positions' : List Nat} (h : positions.Perm positions') (l : Ledger) :
    countAll l positions = countAll l positions' :=
  h.foldl_eq' (fun i _ j _ l => countRetry_comm l i j) l

end Ledger

/-- A report with some changes more. -/
def SweepReport.addAll (r : SweepReport) (cs : List Change) : SweepReport :=
  cs.foldl (fun r c => r.add c.attempted c.fate) r

theorem SweepReport.addAll_perm {cs cs' : List Change} (h : cs.Perm cs') (r : SweepReport) :
    r.addAll cs = r.addAll cs' := by
  refine h.foldl_eq' (fun a _ b _ r => ?_) r
  simp only [add, SweepReport.mk.injEq]
  exact ⟨Nat.add_right_comm .., Nat.add_right_comm .., Nat.add_right_comm ..,
    Nat.add_right_comm ..⟩

namespace Exchange

variable {ω : Type} {calm : ω → Prop} {x y : Exchange ω} {now clock : Instant}
  {change : RetryKey → Change} {keys keys' : List RetryKey} {l es : Ledger} {report : SweepReport}
  {z z' : SweepReport × Exchange ω}

/-- What a sweep over some keys has done when it has made the changes of the keys. The ledger before
is split into a part in which retries are counted and the entries that were written since. -/
structure SweptBy (change : RetryKey → Change) (keys : List RetryKey) (l es : Ledger)
    (report : SweepReport) (x : Exchange ω) (z : SweepReport × Exchange ω) : Prop where
  report : z.1 = report.addAll (keys.map change)
  ledger : z.2.ledger = l.countAll (keys.flatMap fun k => (change k).counted.toList) ++
    (es ++ keys.flatMap fun k => (change k).entry.toList)
  deadLetters : z.2.deadLetters = x.deadLetters ++ keys.flatMap fun k => (change k).letter.toList
  placed : ∀ key ∈ keys, z.2.backlog.get? key = (change key).waiting
  others : ∀ key, key ∉ keys → z.2.backlog.get? key = x.backlog.get? key
  ordered : z.2.backlog.Ordered
  interrupted : z.2.interrupted = (x.interrupted || keys.any fun k => (change k).broken)

/-- Whether two sweeps of an exchange ended alike: with the same report and the same backlog, with
the same retries counted for the entries that were there, and with the same new dead letters and the
same new entries up to their order. -/
structure SameEnd (x : Exchange ω) (z z' : SweepReport × Exchange ω) : Prop where
  report : z'.1 = z.1
  backlog : z'.2.backlog = z.2.backlog
  deadLetters : ∃ letters letters', z.2.deadLetters = x.deadLetters ++ letters ∧
    z'.2.deadLetters = x.deadLetters ++ letters' ∧ letters.Perm letters'
  ledger : ∃ old es es', z.2.ledger = old ++ es ∧ z'.2.ledger = old ++ es' ∧ es.Perm es' ∧
    old.map Entry.uncounted = x.ledger.map Entry.uncounted ∧ ∀ e ∈ es, e.action = .retry

/-- What touches no books may come before the change of the first key. -/
theorem SweptBy.cons {v : Exchange ω} {key : RetryKey} (hframe : x.Appends [] v)
    (hkept : v.interrupted = x.interrupted)
    (hchanged : Changed (change key) key (v.without key) y) (hkey : key ∉ keys)
    (h : SweptBy change keys (l.countAll (change key).counted.toList)
      (es ++ (change key).entry.toList) (report.add (change key).attempted (change key).fate) y z) :
    SweptBy change (key :: keys) l es report x z where
  report := h.report
  ledger := by
    rw [h.ledger, List.flatMap_cons, List.flatMap_cons, List.append_assoc, Ledger.countAll,
      Ledger.countAll, Ledger.countAll, List.foldl_append]
  deadLetters := by
    have hletters : y.deadLetters = v.deadLetters ++ (change key).letter.toList :=
      hchanged.deadLetters
    rw [h.deadLetters, hletters, hframe.deadLetters, List.flatMap_cons, List.append_assoc]
  placed := by
    have hnone : (v.without key).backlog.get? key = none := Table.get?_erase_self _ _
    exact List.forall_mem_cons.mpr
      ⟨(h.others key hkey).trans (hchanged.get?_self hnone), h.placed⟩
  others := fun k hk => by
    obtain ⟨hne, hk⟩ := List.ne_and_not_mem_of_not_mem_cons hk
    rw [h.others k hk, hchanged.get?_of_ne hne, without, Table.get?_erase_of_ne hne, hframe.backlog]
  ordered := h.ordered
  interrupted := by
    have hbroken : y.interrupted = (v.interrupted || (change key).broken) := hchanged.interrupted
    rw [h.interrupted, hbroken, hkept, List.any_cons, Bool.or_assoc]

theorem SweptBy.backlog_eq (h : SweptBy change keys x.ledger [] report x z)
    (h' : SweptBy change keys' x.ledger [] report x z') (hperm : keys.Perm keys') :
    z'.2.backlog = z.2.backlog := by
  refine h'.ordered.ext h.ordered fun key => ?_
  by_cases hkey : key ∈ keys
  · rw [h.placed key hkey, h'.placed key (hperm.mem_iff.mp hkey)]
  · rw [h.others key hkey, h'.others key fun hmem => hkey (hperm.mem_iff.mpr hmem)]

/-- Sums of the same changes are the same. -/
theorem SweptBy.sameEnd (h : SweptBy change keys x.ledger [] report x z)
    (h' : SweptBy change keys' x.ledger [] report x z') (hperm : keys.Perm keys')
    (hretry : ∀ key ∈ keys, ∀ e ∈ (change key).entry, e.action = .retry) : SameEnd x z z' := by
  have hcounted : x.ledger.countAll (keys'.flatMap fun k => (change k).counted.toList) =
      x.ledger.countAll (keys.flatMap fun k => (change k).counted.toList) :=
    (Ledger.countAll_perm (hperm.flatMap_right _) x.ledger).symm
  exact {
    report := by rw [h.report, h'.report, SweepReport.addAll_perm (hperm.map change)]
    backlog := h.backlog_eq h' hperm
    deadLetters := ⟨_, _, h.deadLetters, h'.deadLetters, hperm.flatMap_right _⟩
    ledger := by
      refine ⟨_, _, _, h.ledger, hcounted ▸ h'.ledger, hperm.flatMap_right _,
        Ledger.map_uncounted_countAll _ _, fun e he => ?_⟩
      obtain ⟨key, hkey, he⟩ := List.mem_flatMap.mp he
      exact hretry key hkey e (Option.mem_toList.mp he) }

/-- If one of them broke off, so did the other. -/
theorem SweptBy.completed_eq (h : SweptBy change keys x.ledger [] report x z)
    (h' : SweptBy change keys' x.ledger [] report x z') (hperm : keys.Perm keys') :
    z'.2.completed = z.2.completed := by
  have hletters : z.2.deadLetters.Perm z'.2.deadLetters := by
    rw [h.deadLetters, h'.deadLetters]
    exact (hperm.flatMap_right _).append_left _
  have hcalendar : z'.2.inCalendar = z.2.inCalendar := by
    rw [inCalendar, inCalendar, items, items, h.backlog_eq h' hperm]
    exact ((hletters.map _).append_left _).symm.all_eq
  rw [completed, completed, hcalendar, h.interrupted, h'.interrupted, hperm.any_eq]

variable [Transport ω]

/-- A sweep makes the changes of its keys, unless a retry is counted for an entry that it writes. -/
theorem sweepKeys_sweptBy (hsteady : Transport.Steady calm) (hterms : x.SameTerms calm y)
    (hordered : y.backlog.Ordered) (hnodup : keys.Nodup)
    (hchange : ∀ key ∈ keys, ∃ item, y.backlog.get? key = some item ∧ item.key = key ∧
      x.Decides calm now clock item (change key))
    (hledger : y.ledger = l ++ es)
    (hcounted : ∀ key ∈ keys, ∀ i ∈ (change key).counted,
      i < l.length ∨ l.length + (es.length + keys.length) ≤ i)
    (report : SweepReport) :
    SweptBy change keys l es report y (y.sweepKeys report now clock keys) := by
  induction keys generalizing y l es report with
  | nil =>
    exact ⟨rfl, by simpa [sweepKeys, Ledger.countAll] using hledger, by simp [sweepKeys], by simp,
      fun _ _ => rfl, hordered, by simp [sweepKeys]⟩
  | cons key keys ih =>
    obtain ⟨hkey, hnodup⟩ := List.nodup_cons.mp hnodup
    obtain ⟨⟨item, hitem, hitemKey, hdecides⟩, hchange⟩ := List.forall_mem_cons.mp hchange
    obtain ⟨hcount, hcounted⟩ := List.forall_mem_cons.mp hcounted
    obtain ⟨z, hsweep, hchanged, hterms⟩ := hdecides.sweepKey hsteady
      ((hsteady.lasting x).interlude hterms) hitemKey hitem report
    have heq : y.sweepKeys report now clock (key :: keys) =
        z.sweepKeys (report.add (change key).attempted (change key).fate) now clock keys := by
      simp only [sweepKeys, hsweep]
    rw [heq]
    refine .cons y.interlude_appends rfl hchanged hkey (ih hterms ?_ hnodup ?_ ?_ ?_ _)
    · exact hchanged.ordered (hordered.erase key)
    · intro k hk
      have hne : k ≠ key := fun heq => hkey (heq ▸ hk)
      have hother : z.backlog.get? k = y.backlog.get? k :=
        (hchanged.get?_of_ne hne).trans (Table.get?_erase_of_ne hne y.backlog)
      rw [hother]
      exact hchange k hk
    · have hpositions : ∀ i ∈ (change key).counted.toList,
          i < l.length ∨ l.length + es.length ≤ i := fun i hi => by
        have hposition := hcount i (Option.mem_toList.mp hi)
        omega
      have hbefore : (y.interlude.without key).ledger = l ++ es := hledger
      rw [hchanged.ledger, hbefore, Ledger.countAll_append hpositions, List.append_assoc]
    · intro k hk i hi
      have hposition := hcounted k hk i hi
      have hshort : (change key).entry.toList.length ≤ 1 := by
        cases (change key).entry <;> simp
      simp only [List.length_cons, Ledger.length_countAll, List.length_append] at hposition ⊢
      omega

/-- In a steady world a sweep makes the same changes in whatever order it takes the due items. -/
theorem exists_sweptBy (hsteady : Transport.Steady calm) (hcalm : calm x.world)
    (hordered : x.backlog.Ordered) (hkeyed : ∀ e ∈ x.backlog, e.2.key = e.1)
    (horigin : ∀ e ∈ x.backlog, ∀ i ∈ e.2.origin,
      i < x.ledger.length ∨ x.ledger.length + (x.backlog.dueKeys now).length ≤ i)
    (clock : Instant) : ∃ change : RetryKey → Change,
      (∀ key ∈ x.backlog.dueKeys now, ∀ e ∈ (change key).entry, e.action = .retry) ∧
      ∀ keys : List RetryKey, keys.Perm (x.backlog.dueKeys now) →
        SweptBy change keys x.ledger [] .empty x (x.sweepKeys .empty now clock keys) := by
  have hdecided (key : RetryKey) : ∃ c, ∀ item, x.backlog.get? key = some item →
      x.Decides calm now clock item c := by
    cases x.backlog.get? key with
    | none => exact ⟨⟨false, .delivered, none, none, none, none, false⟩, by simp⟩
    | some item =>
      obtain ⟨c, hc⟩ := decides hsteady hcalm item now clock
      exact ⟨c, fun i hi => Option.some.inj hi ▸ hc⟩
  choose change hchange using hdecided
  have hdue (key : RetryKey) (hkey : key ∈ x.backlog.dueKeys now) :
      ∃ item, (key, item) ∈ x.backlog ∧ x.backlog.get? key = some item := by
    obtain ⟨e, he, rfl⟩ := List.mem_map.mp hkey
    have hmem := (List.mem_filter.mp he).1
    exact ⟨e.2, hmem, (Table.get?_eq_some_iff hordered).mpr hmem⟩
  refine ⟨change, fun key hkey => ?_, fun keys hkeys => ?_⟩
  · obtain ⟨item, -, hitem⟩ := hdue key hkey
    exact (hchange key item hitem).entry
  refine sweepKeys_sweptBy hsteady (.refl hcalm) hordered ?_ ?_ (List.append_nil _).symm ?_ _
  · exact hkeys.nodup_iff.mpr (hordered.keys_nodup.sublist (List.filter_sublist.map _))
  · intro key hkey
    obtain ⟨item, hmem, hitem⟩ := hdue key (hkeys.mem_iff.mp hkey)
    exact ⟨item, hitem, hkeyed _ hmem, hchange key item hitem⟩
  · intro key hkey i hi
    obtain ⟨item, hmem, hitem⟩ := hdue key (hkeys.mem_iff.mp hkey)
    have hposition := horigin _ hmem i ((hchange key item hitem).counted i hi)
    rwa [List.length_nil, Nat.zero_add, hkeys.length_eq]

/-- Two sweeps that take the due items in different orders end alike, or break off both. -/
theorem sweepKeys?_rel (hsteady : Transport.Steady calm) (hcalm : calm x.world)
    (hordered : x.backlog.Ordered) (hkeyed : ∀ e ∈ x.backlog, e.2.key = e.1)
    (horigin : ∀ e ∈ x.backlog, ∀ i ∈ e.2.origin,
      i < x.ledger.length ∨ x.ledger.length + (x.backlog.dueKeys now).length ≤ i)
    (clock : Instant) (hkeys : keys.Perm (x.backlog.dueKeys now))
    (hkeys' : keys'.Perm (x.backlog.dueKeys now)) :
    Option.Rel (SameEnd x) (x.sweepKeys? now clock keys) (x.sweepKeys? now clock keys') := by
  obtain ⟨change, hretry, hswept⟩ :=
    exists_sweptBy hsteady hcalm hordered hkeyed horigin clock
  have hperm := hkeys.trans hkeys'.symm
  have hend := (hswept keys hkeys).sameEnd (hswept keys' hkeys') hperm fun key hkey =>
    hretry key (hkeys.mem_iff.mp hkey)
  have hcompleted := (hswept keys hkeys).completed_eq (hswept keys' hkeys') hperm
  unfold sweepKeys? outcome?
  rw [hcompleted]
  split
  · exact .some hend
  · exact .none

end Exchange

namespace Sample

/-- A POST to the buyer that failed. -/
def failure : Entry :=
  ⟨none, lead.id, "alpha", .post, .failed, none, some 503, 0, none, .lost, 0⟩

/-- An item that waits for its first attempt, for a lead of some id. -/
def waiting (leadId : String) : RetryItem :=
  { RetryItem.fresh { lead with id := leadId } "alpha" .standard ⟨5, 0⟩ with origin := some 0 }

/-- The market of one buyer, in which two leads wait. -/
def crowd : Exchange ScriptedWorld :=
  (((exchange .standard).record failure).enqueue (waiting "lead-1")).enqueue (waiting "lead-2")

theorem crowd_steady : Transport.Steady fun v : ScriptedWorld =>
    v.scripts = crowd.world.scripts ∧ v.unavailable = crowd.world.unavailable := by
  refine ScriptedWorld.steady (exchange_calm .standard) fun id kind => ?_
  by_cases hid : id = "alpha"
  · subst hid
    cases kind <;> exact Nat.le_refl 1
  · have hnone : crowd.world.scripts.get? id = none := by
      rw [show crowd.world = (exchange .standard).world from rfl]
      simp [exchange, Exchange.fresh, ScriptedWorld.ofScripts, Table.get?_cons, hid]
    rw [ScriptedWorld.answers, hnone]
    cases kind <;> exact Nat.zero_le 1

end Sample

end PingPost
