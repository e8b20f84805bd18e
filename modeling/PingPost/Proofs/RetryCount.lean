import PingPost.Proofs.Budget

/-!
The ledger is only added to, and its numbers of retries are exact.

The number of retries in an entry about a POST is counted up when an item is tried that names the
entry as its origin, while the retry itself is put on record by the delivery. The two agree
(`Ledger.Counted`) because an item that waits has the right origin (`Exchange.Traced`): the entry
about the POST of its buyer in its auction, if there was one. The entries about retries number
themselves by the attempts of the item, which are the retries of its auction so far
(`Exchange.Budgeted`).
-/

namespace PingPost

open Exchange

variable {ω : Type}

/-! ### Growing ledgers -/

/-- The second ledger begins with the entries of the first one; of these nothing is changed but that
numbers of retries may have grown. -/
def Ledger.Grows (l l' : Ledger) : Prop :=
  ∀ (n : Nat) (e : Entry), l[n]? = some e → ∃ f : Entry, l'[n]? = some f ∧
    f.uncounted = e.uncounted ∧ e.retryCount ≤ f.retryCount

namespace Ledger.Grows

variable {l l' l'' : Ledger}

theorem refl (l : Ledger) : Ledger.Grows l l := fun _ e he => ⟨e, he, rfl, Nat.le_refl _⟩

theorem trans (h : Ledger.Grows l l') (h' : Ledger.Grows l' l'') : Ledger.Grows l l'' := by
  intro n e he
  obtain ⟨f, hf, hsame, hle⟩ := h n e he
  obtain ⟨g, hg, hsame', hle'⟩ := h' n f hf
  exact ⟨g, hg, hsame'.trans hsame, Nat.le_trans hle hle'⟩

theorem append (l es : Ledger) : Ledger.Grows l (l ++ es) := by
  intro n e he
  have hn : n < l.length := (List.getElem?_eq_some_iff.mp he).1
  exact ⟨e, by rw [List.getElem?_append_left hn, he], rfl, Nat.le_refl _⟩

end Ledger.Grows

/-! ### Exact numbers -/

theorem Entry.eq_of_uncounted {e f : Entry} (h : e.uncounted = f.uncounted) :
    e.auction = f.auction ∧ e.buyerId = f.buyerId ∧ e.action = f.action := by
  have hauction : e.uncounted.auction = f.uncounted.auction := by rw [h]
  have hbuyer : e.uncounted.buyerId = f.uncounted.buyerId := by rw [h]
  have haction : e.uncounted.action = f.uncounted.action := by rw [h]
  exact ⟨hauction, hbuyer, haction⟩

/-- An entry about a retry at the buyer and after the auction of another entry. -/
def Entry.RetryOf (f e : Entry) : Prop :=
  f.action = .retry ∧ f.auction = e.auction ∧ f.buyerId = e.buyerId

instance (f e : Entry) : Decidable (f.RetryOf e) := inferInstanceAs (Decidable (_ ∧ _))

/-- The numbers of retries in the entries are exact. -/
structure Ledger.Counted (l : Ledger) : Prop where
  posts : ∀ e ∈ l, e.action = .post → e.retryCount = l.countP fun f => f.RetryOf e
  others : ∀ e ∈ l, e.action = .ping ∨ e.action = .webhook ∨ e.action = .delivery →
    e.retryCount = 0
  /-- The retries after an auction are numbered in order. -/
  retries : ∀ id, (l.filter fun e => e.Retries id).map (·.retryCount) =
    List.range' 1 (l.retries id)

namespace Ledger.Counted

variable {l es : Ledger}

theorem nil : Ledger.Counted [] := ⟨by simp, by simp, fun _ => rfl⟩

/-- Entries may be added that are about no retry, if those about POSTs are about new auctions. -/
theorem append (h : l.Counted) (hes : ∀ e ∈ es, e.action ≠ .retry ∧ e.retryCount = 0)
    (hnew : ∀ e ∈ es, e.action = .post → ∀ f ∈ l, f.auction ≠ e.auction) :
    Ledger.Counted (l ++ es) := by
  have hnone (e : Entry) : es.countP (fun f => f.RetryOf e) = 0 := by
    refine List.countP_eq_zero.mpr fun f hf => ?_
    simpa using fun hretry : f.RetryOf e => (hes f hf).1 hretry.1
  constructor
  · refine List.forall_mem_append.mpr ⟨fun e he hpost => ?_, fun e he hpost => ?_⟩
    · rw [List.countP_append, hnone, h.posts e he hpost, Nat.add_zero]
    · have hzero : l.countP (fun f => f.RetryOf e) = 0 := by
        refine List.countP_eq_zero.mpr fun f hf => ?_
        simpa using fun hretry : f.RetryOf e => hnew e he hpost f hf hretry.2.1
      rw [List.countP_append, hnone, hzero, (hes e he).2]
  · exact List.forall_mem_append.mpr ⟨h.others, fun e he _ => (hes e he).2⟩
  · intro id
    have hother : ∀ e ∈ es, ¬e.Retries id := fun e he hretries => (hes e he).1 hretries.2
    have hfilter : es.filter (fun e => e.Retries id) = [] :=
      List.filter_eq_nil_iff.mpr fun e he => by simpa using hother e he
    rw [List.filter_append, hfilter, List.append_nil, h.retries,
      Ledger.retries_append_of_not_retries hother]

end Ledger.Counted

/-! ### Origins -/

section

variable {l l' : Ledger} {id : AuctionId} {buyerId : String} {origin : Option Nat}

theorem Ledger.origin_iff :
    l.Origin 0 id buyerId origin ↔
      ∀ n, origin = some n ↔ ∃ e, l[n]? = some e ∧ e.Posts id buyerId := by
  simp only [Ledger.Origin, List.mem_zipIdx_iff_getElem?]

/-- The numbers of retries in the entries do not matter. -/
theorem Ledger.Origin.congr (h : l.Origin 0 id buyerId origin)
    (hsame : l'.map Entry.uncounted = l.map Entry.uncounted) : l'.Origin 0 id buyerId origin := by
  have hposts (l : Ledger) (n : Nat) : (∃ e, l[n]? = some e ∧ e.Posts id buyerId) ↔
      ∃ e, (l.map Entry.uncounted)[n]? = some e ∧ e.Posts id buyerId := by
    rw [List.getElem?_map]
    cases l[n]? with
    | none => simp
    | some e => simp [Entry.Posts, Entry.uncounted]
  rw [Ledger.origin_iff] at h ⊢
  exact fun n => by rw [hposts l', hsame, ← hposts l, h n]

end

namespace Exchange

variable {x y v : Exchange ω} {item left : RetryItem} {id : AuctionId} {now : Instant}
  {attempted : Bool} {fate : SweepEnd} {key : RetryKey} {es : Ledger} {origin : Option Nat}

theorem getElem?_countRetry (x : Exchange ω) (origin : Option Nat) (n : Nat) :
    (x.countRetry origin).ledger[n]? = x.ledger[n]?.map fun e =>
      if origin = some n then { e with retryCount := e.retryCount + 1 } else e := by
  cases origin with
  | none => simp [countRetry]
  | some i =>
    simp only [countRetry, Ledger.getElem?_countRetry, Option.some.injEq, eq_comm]

theorem grows_countRetry (x : Exchange ω) (origin : Option Nat) :
    x.ledger.Grows (x.countRetry origin).ledger := by
  intro n e he
  rw [getElem?_countRetry, he]
  refine ⟨_, rfl, ?_, ?_⟩ <;> split
  · rfl
  · rfl
  · exact Nat.le_succ _
  · exact Nat.le_refl _

/-- The retries are recorded as before, if the counted entry is about a POST. -/
theorem filter_countRetry {buyerId : String} (horigin : x.ledger.Origin 0 id buyerId origin)
    (other : AuctionId) :
    (x.countRetry origin).ledger.filter (fun e => e.Retries other) =
      x.ledger.filter fun e => e.Retries other := by
  cases origin with
  | none => rfl
  | some i =>
    refine Ledger.filter_countRetry fun e he => ?_
    obtain ⟨f, hf, -, hpost, -⟩ := (Ledger.origin_iff.mp horigin i).mp rfl
    cases he.symm.trans hf
    simp [Entry.Retries, hpost]

/-- An entry is counted just when it is about the POST of the item's buyer. -/
theorem mem_countRetry {buyerId : String} (horigin : x.ledger.Origin 0 id buyerId origin)
    {f : Entry} (hf : f ∈ (x.countRetry origin).ledger) :
    ∃ g ∈ x.ledger, f.uncounted = g.uncounted ∧
      f.retryCount = g.retryCount + if g.Posts id buyerId then 1 else 0 := by
  obtain ⟨n, hn⟩ := List.mem_iff_getElem?.mp hf
  rw [getElem?_countRetry] at hn
  obtain ⟨g, hg, rfl⟩ := Option.map_eq_some_iff.mp hn
  have hposts : origin = some n ↔ g.Posts id buyerId := by
    rw [Ledger.origin_iff.mp horigin n, hg]
    simp
  refine ⟨g, List.mem_of_getElem? hg, ?_, ?_⟩ <;> simp only [hposts] <;> split <;> rfl

/-- A retry keeps the numbers exact: the entry about the POST is counted, and the new entry carries
the next number. -/
theorem counted_retry {e : Entry} (h : x.ledger.Counted)
    (horigin : x.ledger.Origin 0 id e.buyerId origin) (hretries : e.Retries id)
    (hnumber : e.retryCount = x.ledger.retries id + 1) :
    Ledger.Counted ((x.countRetry origin).ledger ++ [e]) := by
  have hsame := (x.countRetry_recounts origin).ledger
  -- The origin is the only entry that is counted, and the only POST of which the new entry is a
  -- retry.
  constructor
  · refine List.forall_mem_append.mpr ⟨fun f hf hpost => ?_, List.forall_mem_singleton.mpr ?_⟩
    · obtain ⟨g, hg, huncounted, hcount⟩ := mem_countRetry horigin hf
      obtain ⟨hauction, hbuyer, haction⟩ := Entry.eq_of_uncounted huncounted
      have hpred (f' : Entry) : f'.RetryOf f ↔ f'.RetryOf g := by
        simp only [Entry.RetryOf, hauction, hbuyer]
      have hretry : e.RetryOf f ↔ g.Posts id e.buyerId := by
        rw [hpred, Entry.RetryOf, Entry.Posts, hretries.1, hretries.2, ← haction, hpost]
        simp [eq_comm]
      calc f.retryCount
          = (x.ledger.countP fun f' => f'.RetryOf g) + if e.RetryOf f then 1 else 0 := by
            rw [hcount, h.posts g hg (haction ▸ hpost)]
            simp only [hretry]
        _ = ((x.countRetry origin).ledger.countP fun f' => f'.RetryOf f) +
              if e.RetryOf f then 1 else 0 := by
            rw [Ledger.countP_congr_uncounted (fun _ => rfl) hsame]
            simp only [hpred]
        _ = ((x.countRetry origin).ledger ++ [e]).countP fun f' => f'.RetryOf f := by
            simp [List.countP_append, List.countP_singleton]
    · intro hpost
      cases hpost.symm.trans hretries.2
  · refine List.forall_mem_append.mpr ⟨fun f hf hother => ?_, List.forall_mem_singleton.mpr ?_⟩
    · obtain ⟨g, hg, huncounted, hcount⟩ := mem_countRetry horigin hf
      obtain ⟨-, -, haction⟩ := Entry.eq_of_uncounted huncounted
      have hnot : ¬g.Posts id e.buyerId := by
        rintro ⟨-, hpost, -⟩
        simp [haction, hpost] at hother
      rw [hcount, if_neg hnot, h.others g hg (haction ▸ hother)]
    · intro hother
      simp [hretries.2] at hother
  · intro other
    rw [List.filter_append, filter_countRetry horigin, List.map_append,
      h.retries, Ledger.retries_append, Ledger.retries_congr hsame]
    by_cases hid : other = id
    · subst hid
      simpa [Ledger.retries, hretries, hnumber, List.range'_1_concat] using Nat.add_comm ..
    · have hnot : ¬e.Retries other := fun hother =>
        hid (Option.some.inj (hother.1.symm.trans hretries.1))
      simp [Ledger.retries, hnot]

/-! ### Moves -/

/-- What waits has the right origin. -/
def Traced (x : Exchange ω) : Prop :=
  ∀ i ∈ x.backlog, ∀ id, i.2.auction = some id →
    x.ledger.Origin 0 id i.2.buyerId i.2.origin

theorem Worked.grows (h : Worked x item attempted fate y) : x.ledger.Grows y.ledger := by
  cases h with
  | spared => exact .refl _
  | tried htried =>
    obtain ⟨label, -, hframe⟩ := htried.recorded
    rw [hframe.ledger]
    exact (x.grows_countRetry item.origin).trans (.append _ _)

theorem Worked.counted (h : Worked x item attempted fate y) (hcounted : x.ledger.Counted)
    (hid : item.auction = some id) (horigin : x.ledger.Origin 0 id item.buyerId item.origin)
    (hretries : x.ledger.retries id = item.attempts) : y.ledger.Counted := by
  cases h with
  | spared => exact hcounted
  | @tried fate p y htried =>
    obtain ⟨label, -, hframe⟩ := htried.recorded
    rw [hframe.ledger]
    have horigin : x.ledger.Origin 0 id p.buyerId item.origin := htried.buyerId.symm ▸ horigin
    exact counted_retry hcounted horigin ⟨hid, rfl⟩ (by rw [hretries]; rfl)

/-- Working on an item adds no entry about a POST. -/
theorem Worked.keeps_origin (h : Worked x item attempted fate y) {buyerId : String}
    (horigin : x.ledger.Origin 0 id buyerId origin) : y.ledger.Origin 0 id buyerId origin := by
  cases h with
  | spared => exact horigin
  | tried htried =>
    obtain ⟨label, -, hframe⟩ := htried.recorded
    rw [hframe.ledger]
    refine (horigin.congr (x.countRetry_recounts item.origin).ledger).append ?_
    refine List.forall_mem_singleton.mpr fun hposts => ?_
    cases hposts.2.1

namespace Moves

theorem grows (h : Moves x y) (hkept : x.backlog.WellKept) : x.ledger.Grows y.ledger := by
  cases h with
  | noted _ hframe => exact hframe.ledger ▸ .append _ _
  | ran hran => exact hran.ledger ▸ .append _ _
  | treated hitem htreated =>
    obtain ⟨left, v, -, hworked, hsettled⟩ := htreated.settled (hkept.lt_maxAttempts hitem)
    rw [hsettled.ledger]
    exact hworked.grows

theorem counted (h : Moves x y) (hsound : x.Sound) (hx : x.Budgeted)
    (hcounted : x.ledger.Counted) (htraced : x.Traced) : y.ledger.Counted := by
  cases h with
  | noted hes hframe =>
    rw [hframe.ledger]
    refine hcounted.append (fun e he => ⟨by simp [(hes e he).2.1], (hes e he).2.2⟩)
      fun e he hpost => ?_
    cases hpost.symm.trans (hes e he).2.1
  | ran hran =>
    rw [hran.ledger]
    refine hcounted.append (fun e he => (hran.entries e he).2) fun e he _ f hf heq => ?_
    exact x.not_issued_next (hsound.recorded f hf _ (heq.trans (hran.entries e he).1))
  | treated hitem htreated =>
    obtain ⟨left, v, -, hworked, hsettled⟩ := htreated.settled (hx.kept.lt_maxAttempts hitem)
    have hmem := Table.mem_of_get? hitem
    obtain ⟨id, hid, -, hretries⟩ := hx.waiting _ hmem
    rw [hsettled.ledger]
    exact hworked.counted hcounted hid (htraced _ hmem id hid) hretries

theorem traced (h : Moves x y) (hsound : x.Sound) (hx : x.Budgeted) (htraced : x.Traced) :
    y.Traced := by
  intro i hi id hid
  cases h with
  | noted hes hframe =>
    rw [hframe.backlog] at hi
    rw [hframe.ledger]
    refine (htraced i hi id hid).append fun e he hposts => ?_
    cases hposts.2.1.symm.trans (hes e he).2.1
  | @ran es y hran =>
    rw [hran.ledger]
    -- What waited before is of an earlier auction, about which no entry is added.
    have hold (hi : i ∈ x.backlog) : (x.ledger ++ es).Origin 0 id i.2.buyerId i.2.origin := by
      refine (htraced i hi id hid).append fun e he hposts => ?_
      cases hposts.1.symm.trans (hran.entries e he).1
      exact x.not_issued_next (hsound.waiting i hi _ hid)
    cases hran.handed with
    | dropped hbacklog => exact hold (hbacklog ▸ hi)
    | givenUp _ _ hbacklog => exact hold (hbacklog ▸ hi)
    | queued hmade _ hbacklog =>
      rw [hbacklog] at hi
      rcases Table.mem_put hi with rfl | hi
      · cases hid.symm.trans hmade.auction
        refine Ledger.Origin.prepend (by simpa using hmade.origin) fun e he hposts => ?_
        exact x.not_issued_next (hsound.recorded e he _ hposts.1)
      · exact hold hi
  | treated hitem htreated =>
    obtain ⟨left, v, hleft, hworked, hsettled⟩ := htreated.settled (hx.kept.lt_maxAttempts hitem)
    rw [hsettled.ledger]
    rcases hsettled.waiting i hi with hi | hi
    · rw [hi, hleft.auction] at hid
      rw [hi, hleft.buyerId, hleft.origin]
      exact hworked.keeps_origin (htraced _ (Table.mem_of_get? hitem) id hid)
    · rw [hworked.backlog] at hi
      exact hworked.keeps_origin (htraced i (Table.mem_erase.mp hi).1 id hid)

end Moves

/-! ### Runs -/

/-- **The ledger is only added to, and its numbers of retries are exact**: in every run from an
exchange in which nothing has happened, the ledger at a moment is the beginning of the ledger at
every later moment up to numbers of retries that have grown, and at every moment each entry about a
POST has the number of the retries at its buyer after its auction. -/
theorem run_ledger_counted [Transport ω] (settings : ExchangeSettings) (registry : Registry)
    (secrets : Table String String) (world : ω) (before after : List (Event ω)) :
    ((Exchange.fresh settings registry secrets world).run before).ledger.Grows
        ((Exchange.fresh settings registry secrets world).run (before ++ after)).ledger ∧
      ((Exchange.fresh settings registry secrets world).run before).ledger.Counted := by
  have hfresh := sound_fresh settings registry secrets world
  have hbudgeted := budgeted_fresh settings registry secrets world
  have hstart : (Exchange.fresh settings registry secrets world).ledger.Counted ∧
      (Exchange.fresh settings registry secrets world).Traced :=
    ⟨.nil, fun i hi => by cases hi⟩
  have hsound := hfresh.run before
  have hx := hbudgeted.run hfresh before
  have hcounted := run_of_moves (P := fun y => y.ledger.Counted ∧ y.Traced)
    (fun hmove hsound hx hy => ⟨hmove.counted hsound hx hy.1 hy.2, hmove.traced hsound hx hy.2⟩)
    hfresh hbudgeted hstart before
  rw [run_append]
  refine ⟨?_, hcounted.1⟩
  generalize (Exchange.fresh settings registry secrets world).run before = x at hsound hx
  exact run_of_moves (P := fun y => x.ledger.Grows y.ledger)
    (fun hmove _ hy hgrows => hgrows.trans (hmove.grows hy.kept)) hsound hx (.refl _) after

end Exchange

end PingPost
