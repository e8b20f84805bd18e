import Mathlib.Data.List.Nodup
import PingPost.Pattern.Removal
import PingPost.Proofs.Matching

/-!
What the removal of a pattern leaves.

`Route.guide` works out from which positions a pattern matches, and choices that lead to the end of
a match. That both are right is `Guides`; each construction of a guide keeps it, and so, by
induction on the pattern, every guide is right (`Pattern.guides`). This asks that no repetition
without an upper bound repeats what may be empty (`Pattern.steady`): the choices stop at a round
that does not move.

A removal then leaves no position from which its pattern matched (`Pattern.not_matches_of_left`).
What it leaves may still match, since characters come together that stood apart.
-/

namespace PingPost

variable {R S : Nat → Nat → Prop} {size goals : Nat}

/-! ### Matches that are not empty -/

theorem Steps.lt {n i j : Nat} (hR : ∀ i j, R i j → i < j) (h : Steps R n i j) (hn : 0 < n) :
    i < j := by
  cases n with
  | zero => cases hn
  | succ n =>
    obtain ⟨k, hik, hkj⟩ := h
    exact Nat.lt_of_lt_of_le (hR i k hik) (hkj.le fun i j hij => Nat.le_of_lt (hR i j hij))

namespace Pattern

/-- Whether every match has a character. -/
def consumes : Pattern → Bool
  | .empty => false
  | .set _ => true
  | .anchor _ => false
  | .seq p q => consumes p || consumes q
  | .alt p q => consumes p && consumes q
  | .times p low _ _ => 0 < low && consumes p
  | .group p => consumes p

/-- Whether every repetition without an upper bound moves on with each round. -/
def steady : Pattern → Bool
  | .empty => true
  | .set _ => true
  | .anchor _ => true
  | .seq p q => steady p && steady q
  | .alt p q => steady p && steady q
  | .times p _ high _ => steady p && (high.isSome || consumes p)
  | .group p => steady p

theorem Matches.lt {text : List Char} {p : Pattern} {i j : Nat} (hp : p.consumes = true)
    (h : p.Matches text i j) : i < j := by
  induction p generalizing i j with
  | empty => cases hp
  | set s => exact h.1 ▸ Nat.lt_succ_self i
  | anchor a => cases hp
  | seq p q ihp ihq =>
    obtain ⟨k, hik, hkj⟩ := h
    rcases (Bool.or_eq_true _ _).mp hp with hp | hq
    · exact Nat.lt_of_lt_of_le (ihp hp hik) hkj.le
    · exact Nat.lt_of_le_of_lt hik.le (ihq hq hkj)
  | alt p q ihp ihq =>
    obtain ⟨hp, hq⟩ := (Bool.and_eq_true _ _).mp hp
    exact h.elim (ihp hp) (ihq hq)
  | times p low high greedy ih =>
    obtain ⟨hlow, hp⟩ := (Bool.and_eq_true _ _).mp hp
    obtain ⟨n, hn, -, hsteps⟩ := h
    exact hsteps.lt (fun _ _ => ih hp) (Nat.lt_of_lt_of_le (of_decide_eq_true hlow) hn)
  | group p ih => exact ih hp h

end Pattern

/-! ### Patterns in simplest form -/

namespace Pattern

variable {ps : List Pattern}

theorem consumes_parts (p : Pattern) : (parts p).any consumes = p.consumes := by
  induction p <;> simp_all [parts, consumes]

theorem steady_parts (p : Pattern) : (parts p).all steady = p.steady := by
  induction p <;> simp_all [parts, steady]

theorem steady_branches (p : Pattern) : (branches p).all steady = p.steady := by
  induction p <;> simp_all [branches, steady]

theorem consumes_joinParts (ps : List Pattern) : (joinParts ps).consumes = ps.any consumes := by
  fun_induction joinParts ps <;> simp_all [consumes]

theorem steady_joinParts (ps : List Pattern) : (joinParts ps).steady = ps.all steady := by
  fun_induction joinParts ps <;> simp_all [steady]

theorem steady_joinBranches (ps : List Pattern) : (joinBranches ps).steady = ps.all steady := by
  fun_induction joinBranches ps <;> simp_all [steady]

@[simp] theorem consumes_sequence (ps : List Pattern) :
    (sequence ps).consumes = ps.any consumes := by
  rw [sequence, consumes_joinParts, List.any_flatMap]
  exact congrArg _ (funext consumes_parts)

@[simp] theorem steady_sequence (ps : List Pattern) : (sequence ps).steady = ps.all steady := by
  rw [sequence, steady_joinParts, List.all_flatMap]
  exact congrArg _ (funext steady_parts)

@[simp] theorem steady_word (anyCase : Bool) (s : String) : (word anyCase s).steady = true := by
  simp [word, steady]

/-- Units only group the parts. -/
theorem flatten_units (ps : List Pattern) : (units ps).flatten = ps := by
  induction ps with
  | nil => rfl
  | cons p ps ih =>
    rw [units, List.foldr_cons, ← units]
    split
    · rename_i q qs rest heq
      rw [heq] at ih
      split <;> simp_all
    · simp_all

theorem commonFront_subset (us vs : List (List Pattern)) : commonFront us vs ⊆ us := by
  fun_induction commonFront us vs with
  | case1 us v vs ih => exact List.cons_subset_cons v ih
  | case2 => exact List.nil_subset _
  | case3 => exact List.nil_subset _

theorem foldl_commonFront_subset (first : List (List Pattern))
    (rest : List (List (List Pattern))) : rest.foldl commonFront first ⊆ first := by
  induction rest generalizing first with
  | nil => exact List.Subset.refl _
  | cons vs rest ih => exact List.Subset.trans (ih _) (commonFront_subset first vs)

/-- What is taken out of some branches and what follows it are made of their parts. -/
theorem steady_factored {front rest : List Pattern} (h : factored? ps = some (front, rest))
    (hps : ∀ p ∈ ps, p.steady = true) : ∀ p ∈ front ++ rest, p.steady = true := by
  have hunits : ∀ us ∈ ps.map fun p => units (parts p), ∀ u ∈ us, ∀ p ∈ u, p.steady = true := by
    intro us hus u hu p hp
    obtain ⟨q, hq, rfl⟩ := List.mem_map.mp hus
    have hparts := List.all_eq_true.mp ((steady_parts q).trans (hps q hq)) p
    rw [← flatten_units (parts q)] at hparts
    exact hparts (List.mem_flatten.mpr ⟨u, hu, hp⟩)
  unfold factored? at h
  split at h
  · rename_i first others heq
    rw [heq] at hunits
    dsimp only at h
    split at h
    · cases h
      intro p hp
      rcases List.mem_append.mp hp with hp | hp
      · obtain ⟨u, hu, hp⟩ := List.mem_flatten.mp hp
        exact hunits first List.mem_cons_self u (foldl_commonFront_subset _ _ hu) p hp
      · obtain ⟨us, hus, rfl⟩ := List.mem_map.mp hp
        rw [steady_joinParts, List.all_eq_true]
        intro p hp
        obtain ⟨u, hu, hp⟩ := List.mem_flatten.mp hp
        exact hunits us hus u (List.mem_of_mem_drop hu) p hp
    · cases h
  · cases h

theorem steady_oneOfWithin (fuel : Nat) (h : ∀ p ∈ ps, p.steady = true) :
    (oneOfWithin fuel ps).steady = true := by
  have hflat (qs : List Pattern) (h : ∀ p ∈ qs, p.steady = true) :
      ∀ p ∈ qs.flatMap branches, p.steady = true := by
    intro q hq
    obtain ⟨p, hp, hq⟩ := List.mem_flatMap.mp hq
    exact List.all_eq_true.mp ((steady_branches p).trans (h p hp)) q hq
  fun_induction oneOfWithin fuel ps with
  | case1 => rfl
  | case2 fuel ps p hone => exact hflat ps h p (hone ▸ List.mem_singleton.mpr rfl)
  | case3 => rfl
  | case4 ps fuel front rest _ _ _ hfactored ih =>
    have hparts := List.forall_mem_append.mp (steady_factored hfactored (hflat ps h))
    simpa [ih hparts.2] using hparts.1
  | case5 fuel ps =>
    rw [steady_joinBranches, List.all_eq_true]
    exact hflat ps h

theorem steady_oneOf (h : ∀ p ∈ ps, p.steady = true) : (oneOf ps).steady = true :=
  steady_oneOfWithin _ h

end Pattern

/-! ### Guides -/

/-- Whether positions and choices are right: from the positions, and no others, the relation leads
to a goal, and the choices lead along the relation to one. -/
structure Guides (size : Nat) (R : Nat → Nat → Prop) (goals : Nat) (a : Nat × Guide) : Prop where
  begins : ∀ i, a.1.testBit i ↔ ∃ j, goals.testBit j ∧ R i j
  finish : ∀ i, a.1.testBit i → goals.testBit (a.2.finish size i) ∧ R i (a.2.finish size i)

namespace Guides

open Route Guide

variable {a b : Nat × Guide} {step : Nat → Nat × Guide}

theorem congr (ha : Guides size R goals a) (h : ∀ i j, R i j ↔ S i j) : Guides size S goals a where
  begins i := (ha.begins i).trans (exists_congr fun j => and_congr_right fun _ => h i j)
  finish i hi := ⟨(ha.finish i hi).1, (h _ _).mp (ha.finish i hi).2⟩

theorem stay : Guides size (· = ·) goals (goals, .stay) where
  begins i := by simp
  finish i hi := ⟨hi, rfl⟩

theorem seq (ha : Guides size R b.1 a) (hb : Guides size S goals b) :
    Guides size (fun i j => ∃ k, R i k ∧ S k j) goals (a.1, .seq a.2 b.2) where
  begins i := by
    rw [ha.begins]
    simp only [hb.begins]
    exact ⟨fun ⟨k, ⟨j, hj, hkj⟩, hik⟩ => ⟨j, hj, k, hik, hkj⟩,
      fun ⟨j, hj, k, hik, hkj⟩ => ⟨k, ⟨j, hj, hkj⟩, hik⟩⟩
  finish i hi := by
    obtain ⟨hk, hik⟩ := ha.finish i hi
    obtain ⟨hj, hkj⟩ := hb.finish _ hk
    exact ⟨hj, _, hik, hkj⟩

/-- A choice is made where its branch can lead to a goal. -/
theorem choose (ha : Guides size R goals a) (hb : Guides size S goals b) :
    Guides size (fun i j => R i j ∨ S i j) goals (a.1 ||| b.1, .choose a.1 a.2 b.2) where
  begins i := by
    rw [Nat.testBit_or, Bool.or_eq_true, ha.begins, hb.begins, ← exists_or]
    simp only [← and_or_left]
  finish i hi := by
    rw [Nat.testBit_or, Bool.or_eq_true] at hi
    simp only [Guide.finish]
    split
    · rename_i hai
      obtain ⟨hj, hij⟩ := ha.finish i hai
      exact ⟨hj, .inl hij⟩
    · rename_i hai
      obtain ⟨hj, hij⟩ := hb.finish i (hi.resolve_left hai)
      exact ⟨hj, .inr hij⟩

/-- A step that may be repeated up to a bound. -/
theorem upTo (hstep : ∀ goals, Guides size R goals (step goals)) (greedy : Bool) (n : Nat) :
    Guides size (fun i j => ∃ m ≤ n, Steps R m i j) goals (upTo step greedy goals n) := by
  induction n with
  | zero => exact stay.congr fun i j => by simp [Steps]
  | succ n ih =>
    -- One more round is none, or a step in front of at most `n`.
    have hmore : Guides size _ goals _ := (hstep (Route.upTo step greedy goals n).1).seq ih
    have hsplit (i j : Nat) : (∃ m ≤ n + 1, Steps R m i j) ↔
        i = j ∨ ∃ k, R i k ∧ ∃ m ≤ n, Steps R m k j := by
      constructor
      · rintro ⟨m, hm, hij⟩
        cases m with
        | zero => exact .inl hij
        | succ m =>
          obtain ⟨k, hik, hkj⟩ := hij
          exact .inr ⟨k, hik, m, Nat.le_of_succ_le_succ hm, hkj⟩
      · rintro (hij | ⟨k, hik, m, hm, hkj⟩)
        · exact ⟨0, Nat.zero_le _, hij⟩
        · exact ⟨m + 1, Nat.succ_le_succ hm, k, hik, hkj⟩
    simp only [Route.upTo]
    cases greedy with
    | false => exact (stay.choose hmore).congr fun i j => (hsplit i j).symm
    | true =>
      rw [Nat.or_comm]
      exact (hmore.choose stay).congr fun i j => (or_comm.trans (hsplit i j).symm)

/-- A step that is made a number of times. -/
theorem exactly (hstep : ∀ goals, Guides size R goals (step goals)) (n : Nat)
    (ha : Guides size S goals a) :
    Guides size (fun i j => ∃ k, Steps R n i k ∧ S k j) goals (exactly step n a) := by
  induction n generalizing a S with
  | zero => exact ha.congr fun i j => by simp [Steps]
  | succ n ih =>
    refine (ih ((hstep a.1).seq ha)).congr fun i j => ?_
    simp only [steps_add, steps_one]
    constructor
    · rintro ⟨k, hik, l, hkl, hlj⟩
      exact ⟨l, ⟨k, hik, hkl⟩, hlj⟩
    · rintro ⟨l, ⟨k, hik, hkl⟩, hlj⟩
      exact ⟨k, hik, l, hkl, hlj⟩

/-- Steps are made as long as one can still lead to a goal. Each moves on within the text, so there
are no more of them than positions. -/
theorem walk {length all go : Nat} {g : Guide} {R : Nat → Nat → Prop}
    (hmoves : ∀ i j, R i j → i < j ∧ j ≤ length)
    (hall : ∀ i, all.testBit i → ∃ j, goals.testBit j ∧ ∃ m, Steps R m i j)
    (hgo : ∀ i, go.testBit i → all.testBit (g.finish size i) ∧ R i (g.finish size i))
    (hstop : ∀ i, all.testBit i → ¬go.testBit i → goals.testBit i) (fuel i : Nat)
    (hfuel : length < fuel + i) (hi : all.testBit i) :
    goals.testBit (Guide.walk (g.finish size) go fuel i) ∧
      ∃ m, Steps R m i (Guide.walk (g.finish size) go fuel i) := by
  induction fuel generalizing i with
  | zero =>
    obtain ⟨j, hj, m, hij⟩ := hall i hi
    cases m with
    | zero => exact ⟨hij ▸ hj, 0, rfl⟩
    | succ m =>
      obtain ⟨k, hik, -⟩ := hij
      have := hmoves i k hik
      omega
  | succ fuel ih =>
    simp only [Guide.walk]
    split
    · rename_i hgoes
      obtain ⟨hk, hik⟩ := hgo i hgoes
      have hlt := (hmoves _ _ hik).1
      rw [if_pos hlt]
      obtain ⟨hj, m, hkj⟩ := ih _ (by omega) hk
      exact ⟨hj, m + 1, _, hik, hkj⟩
    · rename_i hstops
      exact ⟨hstop i hi hstops, 0, rfl⟩

/-- A step that may be repeated without a bound. -/
theorem whileAt {length all : Nat} (hsize : length < size)
    (hmoves : ∀ i j, R i j → i < j ∧ j ≤ length)
    (hall : ∀ i, all.testBit i ↔ ∃ j, goals.testBit j ∧ ∃ m, Steps R m i j)
    (ha : Guides size R all a) (greedy : Bool) :
    Guides size (fun i j => ∃ m, Steps R m i j) goals
      (all, .whileAt (if greedy then a.1 else a.1 ^^^ (a.1 &&& goals)) a.2) where
  begins := hall
  finish i hi := by
    refine walk hmoves (fun i hi => (hall i).mp hi) (fun i hgo => ha.finish i ?_) ?_ size i
      (by omega) hi
    · cases greedy <;> simp_all
    · intro k hk hstops
      obtain ⟨j, hj, m, hkj⟩ := (hall k).mp hk
      cases m with
      | zero => exact hkj ▸ hj
      | succ m =>
        obtain ⟨l, hkl, hlj⟩ := hkj
        have hgoes : a.1.testBit k := (ha.begins k).mpr ⟨l, (hall l).mpr ⟨j, hj, m, hlj⟩, hkl⟩
        cases greedy <;> simp_all

end Guides

namespace Pattern

/-- Read backwards, the matcher follows the matches backwards. -/
theorem origins_leads (text : List Char) (p : Pattern) :
    Leads ((p.onText text).origins (text.length + 1)) (flip (p.Matches text)) := by
  induction p with
  | empty => exact fun goals i => by simp [onText, Route.origins, Matches, flip]
  | set s =>
    intro goals i
    simp only [onText, Route.origins, Matches, flip, Nat.testBit_and, Nat.testBit_shiftRight,
      Bool.and_eq_true, testBit_setOnText, Nat.add_comm 1]
    constructor
    · rintro ⟨hj, hc⟩
      exact ⟨i + 1, hj, rfl, hc⟩
    · rintro ⟨_, hj, rfl, hc⟩
      exact ⟨hj, hc⟩
  | anchor a =>
    intro goals i
    simp only [onText, Route.origins, Matches, flip, Nat.testBit_and, Bool.and_eq_true,
      testBit_anchorOnText]
    constructor
    · rintro ⟨hj, ha⟩
      exact ⟨i, hj, rfl, ha⟩
    · rintro ⟨_, hj, rfl, ha⟩
      exact ⟨hj, ha⟩
  | seq p q ihp ihq => exact (ihq.comp ihp).congr fun j i => exists_congr fun k => and_comm
  | alt p q ihp ihq => exact ihp.or ihq
  | times p low high greedy ih =>
    refine Leads.congr (R := fun j i => ∃ k,
      (∃ m, (∀ h ∈ high, m ≤ h - low) ∧ Steps (flip (p.Matches text)) m j k) ∧
        Steps (flip (p.Matches text)) low k i) ?_ fun j i => ?_
    · cases high with
      | some h =>
        have hmore : Leads _ fun j k => ∃ m, (∀ h' ∈ some h, m ≤ h' - low) ∧
            Steps (flip (p.Matches text)) m j k :=
          (ih.stepUpTo (h - low)).congr fun i j => by simp
        exact hmore.comp (ih.stepTimes low)
      | none =>
        have hmore : Leads _ fun j k => ∃ m, (∀ h' ∈ none, m ≤ h' - low) ∧
            Steps (flip (p.Matches text)) m j k :=
          (ih.stepAnyTimes (Nat.le_succ _) fun _ _ _ => steps_flip_shorten).congr
            fun j i => by simp
        exact hmore.comp (ih.stepTimes low)
    · simp only [flip, matches_times, steps_flip]
      exact exists_congr fun k => and_comm
  | group p ih => exact ih

/-- Every guide of a steady pattern is right. -/
theorem guides (text : List Char) {p : Pattern} (hp : p.steady = true) (goals : Nat) :
    Guides (text.length + 1) (p.Matches text) goals
      ((p.onText text).guide (text.length + 1) goals) := by
  induction p generalizing goals with
  | empty => exact .stay
  | set s =>
    constructor
    · intro i
      simp only [onText, Route.guide, Matches, Nat.testBit_and, Nat.testBit_shiftRight,
        Bool.and_eq_true, testBit_setOnText, Nat.add_comm 1]
      constructor
      · rintro ⟨hj, hc⟩
        exact ⟨i + 1, hj, rfl, hc⟩
      · rintro ⟨_, hj, rfl, hc⟩
        exact ⟨hj, hc⟩
    · intro i hi
      simp only [onText, Route.guide, Nat.testBit_and, Nat.testBit_shiftRight,
        Bool.and_eq_true, testBit_setOnText, Nat.add_comm 1] at hi
      exact ⟨hi.1, rfl, hi.2⟩
  | anchor a =>
    constructor
    · intro i
      simp only [onText, Route.guide, Matches, Nat.testBit_and, Bool.and_eq_true,
        testBit_anchorOnText]
      constructor
      · rintro ⟨hj, ha⟩
        exact ⟨i, hj, rfl, ha⟩
      · rintro ⟨_, hj, rfl, ha⟩
        exact ⟨hj, ha⟩
    · intro i hi
      simp only [onText, Route.guide, Nat.testBit_and, Bool.and_eq_true,
        testBit_anchorOnText] at hi
      exact ⟨hi.1, rfl, hi.2⟩
  | seq p q ihp ihq =>
    obtain ⟨hp, hq⟩ := (Bool.and_eq_true _ _).mp hp
    exact (ihp hp _).seq (ihq hq goals)
  | alt p q ihp ihq =>
    obtain ⟨hp, hq⟩ := (Bool.and_eq_true _ _).mp hp
    exact (ihp hp goals).choose (ihq hq goals)
  | times p low high greedy ih =>
    obtain ⟨hbody, hbound⟩ := (Bool.and_eq_true _ _).mp hp
    refine Guides.congr (R := fun i j => ∃ k, Steps (p.Matches text) low i k ∧
      ∃ m, (∀ h ∈ high, m ≤ h - low) ∧ Steps (p.Matches text) m k j) ?_
        fun i j => matches_times.symm
    refine Guides.exactly (ih hbody) low ?_
    cases high with
    | some h => exact (Guides.upTo (ih hbody) greedy (h - low)).congr fun i j => by simp
    | none =>
      have hall := (origins_leads text p).stepAnyTimes (Nat.le_succ _)
        fun _ _ _ => steps_flip_shorten
      have hmoves (i j : Nat) (hij : p.Matches text i j) : i < j ∧ j ≤ text.length :=
        ⟨hij.lt (by simpa using hbound), hij.le_length (hij.lt (by simpa using hbound))⟩
      have hfrom (i : Nat) := (hall goals i).trans <| exists_congr fun j =>
        and_congr_right fun _ => exists_congr fun m => steps_flip
      exact (Guides.whileAt (Nat.lt_succ_self _) hmoves hfrom (ih hbody _) greedy).congr
        fun i j => by simp
  | group p ih => exact ih hp goals

/-! ### What is left -/

section

variable {α β : Type} {begins : Nat} {finish : Nat → Nat}

theorem removeFrom_cons (i : Nat) (c : α) (cs : List α) :
    removeFrom begins finish 0 i (c :: cs) =
      if begins.testBit i = true ∧ i < finish i then
        removeFrom begins finish (finish i - i - 1) (i + 1) cs
      else c :: removeFrom begins finish 0 (i + 1) cs := by
  by_cases h : begins.testBit i <;> simp [removeFrom, h]

theorem removeFrom_map (f : α → β) (drop i : Nat) (cs : List α) :
    removeFrom begins finish drop i (cs.map f) = (removeFrom begins finish drop i cs).map f := by
  induction cs generalizing drop i with
  | nil => cases drop <;> rfl
  | cons c cs ih =>
    cases drop with
    | zero =>
      rw [List.map_cons, removeFrom_cons, removeFrom_cons, ih, ih]
      split <;> rfl
    | succ drop => exact ih ..

theorem removeFrom_sublist (drop i : Nat) (cs : List α) :
    (removeFrom begins finish drop i cs).Sublist cs := by
  induction cs generalizing drop i with
  | nil => cases drop <;> exact .slnil
  | cons c cs ih =>
    cases drop with
    | zero =>
      rw [removeFrom_cons]
      split
      · exact (ih ..).cons _
      · exact (ih ..).cons_cons _
    | succ drop => exact (ih ..).cons _

theorem removeFrom_eq_self (h : ∀ i, ¬begins.testBit i) (i : Nat) (cs : List α) :
    removeFrom begins finish 0 i cs = cs := by
  induction cs generalizing i with
  | nil => rfl
  | cons c cs ih => rw [removeFrom_cons, if_neg fun hi => h i hi.1, ih]

theorem nodup_zipIdx (cs : List α) : cs.zipIdx.Nodup := by
  refine List.Nodup.of_map (·.2) ?_
  rw [List.zipIdx_map_snd]
  exact List.nodup_range' ..

/-- Nothing to remove begins where something is left. -/
theorem not_begins_of_mem_zipIdx {drop i : Nat} {cs : List α} {x : α × Nat}
    (hx : x ∈ removeFrom begins finish drop i (cs.zipIdx i)) :
    ¬(begins.testBit x.2 = true ∧ x.2 < finish x.2) := by
  induction cs generalizing drop i with
  | nil => cases drop <;> cases hx
  | cons c cs ih =>
    cases drop with
    | zero =>
      rw [List.zipIdx_cons, removeFrom_cons] at hx
      split at hx
      · exact ih hx
      · rename_i hkeep
        rcases List.mem_cons.mp hx with rfl | hx
        · exact hkeep
        · exact ih hx
    | succ drop => exact ih hx

theorem not_begins_of_mem_removeFrom {cs : List α} (hnodup : cs.Nodup) {x : α}
    (hx : x ∈ removeFrom begins finish 0 0 cs) {i : Nat} (hi : cs[i]? = some x) :
    ¬(begins.testBit i = true ∧ i < finish i) := by
  rw [← List.zipIdx_map_fst 0 cs, removeFrom_map] at hx
  obtain ⟨⟨x, k⟩, hleft, rfl⟩ := List.mem_map.mp hx
  have hk := List.mem_zipIdx_iff_getElem?.mp ((removeFrom_sublist ..).subset hleft)
  have hlen := (List.getElem?_eq_some_iff.mp hi).1
  obtain rfl : i = k := (List.getElem?_inj hlen hnodup).mp (hi.trans hk.symm)
  exact not_begins_of_mem_zipIdx hleft

end

/-- Where matches begin in a text. -/
def beginsIn (p : Pattern) (text : List Char) : Nat :=
  ((p.onText text).guide (text.length + 1) (1 <<< (text.length + 1) - 1)).1

/-- Where the preferred match from a position ends. -/
def finishIn (p : Pattern) (text : List Char) : Nat → Nat :=
  ((p.onText text).guide (text.length + 1) (1 <<< (text.length + 1) - 1)).2.finish (text.length + 1)

theorem toList_removeAll (p : Pattern) (s : String) :
    (p.removeAll s).toList = removeFrom (p.beginsIn s.toList) (p.finishIn s.toList) 0 0 s.toList :=
  String.toList_ofList

theorem removeAll_sublist (p : Pattern) (s : String) :
    (p.removeAll s).toList.Sublist s.toList := by
  rw [toList_removeAll]
  exact removeFrom_sublist ..

/-- Characters, each with something that goes with it, without the parts that match. -/
def strip {α : Type} (p : Pattern) (cs : List (Char × α)) : List (Char × α) :=
  removeFrom (p.beginsIn (cs.map (·.1))) (p.finishIn (cs.map (·.1))) 0 0 cs

theorem strip_sublist {α : Type} (p : Pattern) (cs : List (Char × α)) : (p.strip cs).Sublist cs :=
  removeFrom_sublist ..

theorem map_strip {α : Type} {p : Pattern} {cs : List (Char × α)} {s : String}
    (h : cs.map (·.1) = s.toList) : (p.strip cs).map (·.1) = (p.removeAll s).toList := by
  rw [toList_removeAll, strip, ← removeFrom_map, h]

section

variable {p : Pattern} (hsteady : p.steady = true) (hconsumes : p.consumes = true)
  {text : List Char} {i : Nat}

include hsteady hconsumes

theorem testBit_beginsIn : (p.beginsIn text).testBit i ↔ ∃ j, p.Matches text i j := by
  rw [beginsIn, (guides text hsteady _).begins]
  refine exists_congr fun j => ⟨And.right, fun hij => ⟨testBit_allPositions.mpr ?_, hij⟩⟩
  exact hij.le_length (hij.lt hconsumes)

/-- What is removed has a character. -/
theorem lt_finishIn (hi : (p.beginsIn text).testBit i) : i < p.finishIn text i :=
  ((guides text hsteady _).finish i hi).2.lt hconsumes

/-- No match begins at a character that is left. -/
theorem not_matches_of_mem_strip {α : Type} {cs : List (Char × α)} (hnodup : cs.Nodup)
    {x : Char × α} (hx : x ∈ p.strip cs) (hi : cs[i]? = some x) (j : Nat) :
    ¬p.Matches (cs.map (·.1)) i j := by
  intro hij
  have hbegins := (testBit_beginsIn hsteady hconsumes).mpr ⟨j, hij⟩
  exact not_begins_of_mem_removeFrom hnodup hx hi ⟨hbegins, lt_finishIn hsteady hconsumes hbegins⟩

/-- A removal leaves a text alone just when nothing in it matches. -/
theorem removeAll_eq_self_iff {s : String} : p.removeAll s = s ↔ p.isMatch s = false := by
  rw [← Bool.not_eq_true, isMatch_iff]
  constructor
  · rintro hself ⟨i, j, -, hij⟩
    have hlen : i < s.toList.length :=
      Nat.lt_of_lt_of_le (hij.lt hconsumes) (hij.le_length (hij.lt hconsumes))
    -- All characters are left, that at which the match begins with them.
    have hall : p.strip s.toList.zipIdx = s.toList.zipIdx := by
      refine (p.strip_sublist _).eq_of_length ?_
      have hmap := map_strip (p := p) (List.zipIdx_map_fst 0 s.toList)
      rw [hself] at hmap
      simpa using congrArg List.length hmap
    have hi : s.toList.zipIdx[i]? = some (s.toList[i], i) := by simp [hlen]
    have hleft : (s.toList[i], i) ∈ p.strip s.toList.zipIdx := by
      rw [hall]
      exact List.mem_of_getElem? hi
    refine not_matches_of_mem_strip hsteady hconsumes (nodup_zipIdx _) hleft hi j ?_
    rwa [List.zipIdx_map_fst]
  · intro hnone
    refine String.toList_inj.mp ?_
    rw [toList_removeAll, removeFrom_eq_self]
    intro i hi
    obtain ⟨j, hij⟩ := (testBit_beginsIn hsteady hconsumes).mp hi
    exact hnone ⟨i, j, Nat.le_trans hij.le (hij.le_length (hij.lt hconsumes)), hij⟩

end

end Pattern

end PingPost
