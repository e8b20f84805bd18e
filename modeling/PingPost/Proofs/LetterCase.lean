import PingPost.Proofs.Authentication
import PingPost.Text.Case

/-!
What the case mappings leave in ASCII.

No character is mapped to a capital ASCII letter by lower case, and none to a small one by upper
case (`Text.notCapital_of_mem_lowerChars`, `Text.notSmall_of_mem_upperChar`). An ASCII text is
mapped letter by letter (`Text.lowerChars_of_ascii`), so one without capitals is in lower case
already, and one without small letters in upper case. What lower case makes of any text is in lower
case (`Text.isLower_of_mem_lowerChars`).
-/

namespace PingPost.Text

/-! ### The tables of case -/

/-- Whether a code point lies outside an interval. -/
def Outside (low high n : Nat) : Prop := n < low ∨ high < n

/-- Whether no run leads into an interval of code points. -/
def CaseRuns.Avoid (runs : CaseRuns) (low high : Nat) : Prop :=
  ∀ run ∈ runs, (run.2.1 : Int) + run.2.2.2 < low ∨ high < (run.1 : Int) + run.2.2.2

variable {low high : Nat}

instance (n : Nat) : Decidable (Outside low high n) := inferInstanceAs (Decidable (_ ∨ _))

instance (runs : CaseRuns) : Decidable (runs.Avoid low high) :=
  inferInstanceAs (Decidable (∀ _ ∈ _, _))

theorem toNat_ofNat {n : Nat} (h : n.isValidChar) : (Char.ofNat n).toNat = n := by
  have hchar : Char.ofNat n = Char.ofNatAux n h := dif_pos h
  rw [hchar]
  rfl

theorem outside_ofNat (hlow : 0 < low) {n : Nat} (h : Outside low high n) :
    Outside low high (Char.ofNat n).toNat := by
  by_cases hvalid : n.isValidChar
  · rwa [toNat_ofNat hvalid]
  · have hnull : Char.ofNat n = Char.ofNat 0 := dif_neg hvalid
    rw [hnull]
    exact .inl hlow

/-- The places from which a run leads on. -/
def Covers (run : Nat × Nat × Nat × Int) (n : Nat) : Prop :=
  run.1 ≤ n ∧ n ≤ run.2.1 ∧ (n - run.1) % run.2.2.1 = 0

/-- All characters of a run move by the same distance. -/
theorem CaseRuns.apply_cases (runs : CaseRuns) (c : Char) :
    runs.apply c = c ∨ ∃ run ∈ runs, Covers run c.toNat ∧
      runs.apply c = Char.ofNat ((c.toNat : Int) + run.2.2.2).toNat := by
  unfold CaseRuns.apply
  dsimp only
  split
  · rename_i first last step shift hfind
    have hin := List.find?_some hfind
    simp only [Bool.and_eq_true, decide_eq_true_eq, beq_iff_eq, and_assoc] at hin
    exact .inr ⟨_, List.mem_of_find?_eq_some hfind, hin, rfl⟩
  · exact .inl rfl

theorem CaseRuns.Avoid.apply {runs : CaseRuns} (h : runs.Avoid low high) (hlow : 0 < low) {c : Char}
    (hc : Outside low high c.toNat) : Outside low high (runs.apply c).toNat := by
  rcases runs.apply_cases c with hself | ⟨run, hrun, ⟨hfirst, hlast, -⟩, hmoved⟩
  · rwa [hself]
  · have havoid := h run hrun
    rw [hmoved]
    apply outside_ofNat hlow
    simp only [Outside]
    omega

theorem outside_of_mem_image {c d : Char} {image : List Nat} {key : Nat}
    (table : List (Nat × List Nat)) (hlow : 0 < low)
    (htable : ∀ e ∈ table, ∀ n ∈ e.2, Outside low high n)
    (h : table.find? (·.1 == c.toNat) = some (key, image)) (hd : d ∈ image.map Char.ofNat) :
    Outside low high d.toNat := by
  obtain ⟨n, hn, rfl⟩ := List.mem_map.mp hd
  exact outside_ofNat hlow (htable _ (List.mem_of_find?_eq_some h) n hn)

theorem find?_of_ascii {table : List (Nat × List Nat)} (htable : ∀ e ∈ table, 128 ≤ e.1) {c : Char}
    (hc : c.toNat < 128) : table.find? (·.1 == c.toNat) = none := by
  rw [List.find?_eq_none]
  intro e he
  have hkey := htable e he
  simp only [beq_iff_eq]
  omega

/-! ### Lower case -/

/-- Not one of the letters from `A` to `Z`. -/
abbrev NotCapital (c : Char) : Prop := Outside 65 90 c.toNat

theorem notCapital_asciiLower (c : Char) : NotCapital (asciiLower c) := by
  by_cases hc : c.toNat < 128
  · exact forall_ascii (P := fun c => NotCapital (asciiLower c)) (by decide) hc
  · have hself : asciiLower c = c := by
      apply if_neg
      rintro ⟨-, hle⟩
      have hle' : c.toNat ≤ 90 := hle
      omega
    rw [hself]
    exact .inr (by omega)

theorem asciiLower_of_notCapital {c : Char} (h : NotCapital c) : asciiLower c = c := by
  apply if_neg
  rintro ⟨hge, hle⟩
  have hge' : 65 ≤ c.toNat := hge
  have hle' : c.toNat ≤ 90 := hle
  simp only [Outside] at h
  omega

/-- Only letters change, so a mark is made of itself only. -/
theorem asciiLower_eq_iff {c mark : Char} (hcapital : NotCapital mark)
    (hsmall : Outside 97 122 mark.toNat) : asciiLower c = mark ↔ c = mark := by
  constructor
  · intro h
    rcases Classical.em (NotCapital c) with hc | hc
    · rwa [asciiLower_of_notCapital hc] at h
    · have hletter : 65 ≤ c.toNat ∧ c.toNat ≤ 90 := by
        simp only [Outside] at hc
        omega
      have hlower : asciiLower c = Char.ofNat (c.toNat + 32) := if_pos hletter
      have hvalid : (c.toNat + 32).isValidChar := .inl (by omega)
      have hvalue : (asciiLower c).toNat = c.toNat + 32 := by
        rw [hlower, toNat_ofNat hvalid]
      rw [h] at hvalue
      simp only [Outside] at hsmall
      omega
  · rintro rfl
    exact asciiLower_of_notCapital hcapital

theorem notCapital_of_mem_lowerChar {c d : Char} (h : d ∈ lowerChar c) : NotCapital d := by
  unfold lowerChar at h
  split at h
  · exact outside_of_mem_image lowerSequences (by decide) (by decide) ‹_› h
  · rw [List.mem_singleton.mp h, lowerOne]
    split
    · exact notCapital_asciiLower c
    · have hruns : lowerRuns.Avoid 65 90 := by decide +kernel
      exact hruns.apply (by decide) (.inr (by omega))

/-- **Lower case leaves no capital ASCII letter.** -/
theorem notCapital_of_mem_lowerChars {cs : List Char} {d : Char} (h : d ∈ lowerChars cs) :
    NotCapital d := by
  unfold lowerChars at h
  generalize [] = before at h
  induction cs generalizing before with
  | nil => cases h
  | cons c cs ih =>
    rcases List.mem_append.mp h with h | h
    · split at h
      · -- The two small sigmas are far from ASCII.
        split at h <;> rw [List.mem_singleton.mp h] <;> decide
      · exact notCapital_of_mem_lowerChar h
    · exact ih _ h

theorem lowerChar_of_ascii {c : Char} (hc : c.toNat < 128) : lowerChar c = [asciiLower c] := by
  rw [lowerChar, find?_of_ascii (by decide) hc]
  exact congrArg (fun d => [d]) (if_pos hc)

theorem lowerFrom_cons_of_ascii {c : Char} (hc : c.toNat < 128) (before cs : List Char) :
    lowerFrom before (c :: cs) = asciiLower c :: lowerFrom (c :: before) cs := by
  have hsigma : c ≠ 'Σ' := by
    rintro rfl
    revert hc
    decide
  rw [lowerFrom, if_neg hsigma, lowerChar_of_ascii hc, List.singleton_append]

theorem lowerChars_of_ascii {cs : List Char} (h : ∀ c ∈ cs, c.toNat < 128) :
    lowerChars cs = cs.map asciiLower := by
  unfold lowerChars
  generalize [] = before
  induction cs generalizing before with
  | nil => rfl
  | cons c cs ih =>
    obtain ⟨hc, hcs⟩ := List.forall_mem_cons.mp h
    rw [lowerFrom_cons_of_ascii hc, ih hcs, List.map_cons]

theorem lowerChars_eq_self {cs : List Char} (hascii : ∀ c ∈ cs, c.toNat < 128)
    (h : ∀ c ∈ cs, NotCapital c) : lowerChars cs = cs := by
  rw [lowerChars_of_ascii hascii]
  exact (List.map_congr_left fun c hc => asciiLower_of_notCapital (h c hc)).trans (List.map_id cs)

/-! ### Lower case of lower case -/

/-- A run does not lead to where another one starts: it ends before it or begins behind it, or
it meets only the places between the steps of the other. -/
def leadsPast (run other : Nat × Nat × Nat × Int) : Bool :=
  ((run.2.1 : Int) + run.2.2.2).toNat.blt other.1 ||
    other.2.1.blt ((run.1 : Int) + run.2.2.2).toNat ||
    ((run.2.2.1 == 2 || run.1 == run.2.1) && other.2.2.1 == 2 &&
      ((run.1 : Int) + run.2.2.2 - other.1) % 2 == 1)

/-- No run leads to where one of them starts, and none starts at zero. -/
def CaseRuns.settled (runs : CaseRuns) : Bool :=
  runs.all fun run => Nat.blt 0 run.1 && runs.all (leadsPast run)

theorem leadsPast_iff (run other : Nat × Nat × Nat × Int) : leadsPast run other = true ↔
    (((run.2.1 : Int) + run.2.2.2).toNat < other.1 ∨
      other.2.1 < ((run.1 : Int) + run.2.2.2).toNat) ∨
    ((run.2.2.1 = 2 ∨ run.1 = run.2.1) ∧ other.2.2.1 = 2) ∧
      ((run.1 : Int) + run.2.2.2 - other.1) % 2 = 1 := by
  simp only [leadsPast, Bool.or_eq_true, Bool.and_eq_true, Nat.blt_eq, beq_iff_eq]

theorem CaseRuns.settled_iff (runs : CaseRuns) : runs.settled = true ↔
    ∀ run ∈ runs, 0 < run.1 ∧ ∀ other ∈ runs, leadsPast run other = true := by
  simp only [settled, List.all_eq_true, Bool.and_eq_true, Nat.blt_eq]

theorem CaseRuns.apply_of_not_covers {runs : CaseRuns} {c : Char}
    (h : ∀ run ∈ runs, ¬Covers run c.toNat) : runs.apply c = c :=
  (runs.apply_cases c).resolve_right fun ⟨run, hrun, hcovers, _⟩ => h run hrun hcovers

/-- Where runs lead, none of them leads on. -/
theorem CaseRuns.apply_apply_of_settled {runs : CaseRuns} (h : runs.settled = true) (c : Char) :
    runs.apply (runs.apply c) = runs.apply c := by
  rcases runs.apply_cases c with hself | ⟨run, hrun, hcovers, hmoved⟩
  · rw [hself, hself]
  rw [hmoved]
  refine apply_of_not_covers fun other hother hcovers' => ?_
  have hpos := ((runs.settled_iff.mp h) other hother).1
  have hpast := (leadsPast_iff run other).mp (((runs.settled_iff.mp h) run hrun).2 other hother)
  by_cases hvalid : ((c.toNat : Int) + run.2.2.2).toNat.isValidChar
  · rw [toNat_ofNat hvalid] at hcovers'
    obtain ⟨hfirst, hlast, hstep⟩ := hcovers
    obtain ⟨hfirst', hlast', hstep'⟩ := hcovers'
    rcases hpast with (hbefore | hbehind) | ⟨⟨htwo | hone, htwo'⟩, hodd⟩
    · omega
    · omega
    · rw [htwo] at hstep
      rw [htwo'] at hstep'
      omega
    · rw [htwo'] at hstep'
      omega
  · have hnull : Char.ofNat ((c.toNat : Int) + run.2.2.2).toNat = Char.ofNat 0 := dif_neg hvalid
    rw [hnull] at hcovers'
    exact absurd hcovers'.1 (Nat.not_le.mpr hpos)

/-- A character that is its own lower case. -/
def IsLower (c : Char) : Prop := lowerChar c = [c]

instance (c : Char) : Decidable (IsLower c) := inferInstanceAs (Decidable (_ = _))

theorem toNat_asciiLower_lt {c : Char} (h : c.toNat < 128) : (asciiLower c).toNat < 128 :=
  forall_ascii (P := fun c => (asciiLower c).toNat < 128) (by decide) h

theorem lowerOne_of_small {c : Char} (hc : c.toNat < 128) (h : NotCapital c) : lowerOne c = c := by
  rw [lowerOne, if_pos hc, asciiLower_of_notCapital h]

theorem lowerOne_lowerOne (c : Char) : lowerOne (lowerOne c) = lowerOne c := by
  have hsettled : lowerRuns.settled = true := by decide +kernel
  have havoid : lowerRuns.Avoid 65 90 := by decide +kernel
  by_cases hc : c.toNat < 128
  · have hlower : lowerOne c = asciiLower c := if_pos hc
    rw [hlower, lowerOne_of_small (toNat_asciiLower_lt hc) (notCapital_asciiLower c)]
  · have hlower : lowerOne c = lowerRuns.apply c := if_neg hc
    rw [hlower]
    by_cases hd : (lowerRuns.apply c).toNat < 128
    · exact lowerOne_of_small hd (havoid.apply (by decide) (.inr (by omega)))
    · rw [lowerOne, if_neg hd, lowerRuns.apply_apply_of_settled hsettled]

/-- **What lower case makes of a character is in lower case.** -/
theorem isLower_of_mem_lowerChar {c d : Char} (h : d ∈ lowerChar c) : IsLower d := by
  unfold lowerChar at h
  split at h
  · rename_i key image hfind
    have himages : ∀ e ∈ lowerSequences, ∀ n ∈ e.2, IsLower (Char.ofNat n) := by decide
    obtain ⟨n, hn, rfl⟩ := List.mem_map.mp h
    exact himages _ (List.mem_of_find?_eq_some hfind) n hn
  · rename_i hnone
    rw [List.mem_singleton.mp h]
    -- The character with a longer lower case is not one that others lead to.
    have hkeys : ∀ e ∈ lowerSequences, 128 ≤ e.1 ∧ lowerRuns.Avoid e.1 e.1 := by decide +kernel
    have hno : lowerSequences.find? (·.1 == (lowerOne c).toNat) = none := by
      rw [List.find?_eq_none] at hnone ⊢
      intro e he
      obtain ⟨hlarge, havoid⟩ := hkeys e he
      have hne : c.toNat ≠ e.1 := fun heq => hnone e he (by simp [heq])
      have hout : Outside e.1 e.1 (lowerOne c).toNat := by
        unfold lowerOne
        split
        · rename_i hc
          exact .inl (Nat.lt_of_lt_of_le (toNat_asciiLower_lt hc) hlarge)
        · exact havoid.apply (by omega) (Nat.lt_or_gt_of_ne hne)
      rw [beq_iff_eq]
      simp only [Outside] at hout
      omega
    rw [IsLower, lowerChar, hno, lowerOne_lowerOne]

/-- No context makes a difference to characters in lower case. -/
theorem lowerChars_of_isLower {cs : List Char} (h : ∀ c ∈ cs, IsLower c) : lowerChars cs = cs := by
  have hsigma : ¬IsLower 'Σ' := by decide
  unfold lowerChars
  generalize [] = before
  induction cs generalizing before with
  | nil => rfl
  | cons c cs ih =>
    obtain ⟨hc, hcs⟩ := List.forall_mem_cons.mp h
    have hne : c ≠ 'Σ' := by
      rintro rfl
      exact hsigma hc
    rw [lowerFrom, if_neg hne, ih hcs, hc, List.singleton_append]

theorem isLower_of_mem_lowerChars {cs : List Char} {d : Char} (h : d ∈ lowerChars cs) :
    IsLower d := by
  unfold lowerChars at h
  generalize [] = before at h
  induction cs generalizing before with
  | nil => cases h
  | cons c cs ih =>
    rcases List.mem_append.mp h with h | h
    · split at h
      · split at h <;> rw [List.mem_singleton.mp h] <;> decide
      · exact isLower_of_mem_lowerChar h
    · exact ih _ h

/-! ### Upper case -/

/-- Not one of the letters from `a` to `z`. -/
abbrev NotSmall (c : Char) : Prop := Outside 97 122 c.toNat

theorem notSmall_upperOne (c : Char) : NotSmall (upperOne c) := by
  by_cases hc : c.toNat < 128
  · exact forall_ascii (P := fun c => NotSmall (upperOne c)) (by decide) hc
  · have hruns : upperRuns.Avoid 97 122 := by decide +kernel
    rw [upperOne, if_neg hc]
    exact hruns.apply (by decide) (.inr (by omega))

/-- **Upper case leaves no small ASCII letter.** -/
theorem notSmall_of_mem_upperChar {c d : Char} (h : d ∈ upperChar c) : NotSmall d := by
  unfold upperChar at h
  split at h
  · exact List.mem_singleton.mp h ▸ notSmall_upperOne c
  split at h
  · exact outside_of_mem_image upperSequences (by decide) (by decide) ‹_› h
  · exact List.mem_singleton.mp h ▸ notSmall_upperOne c

theorem upperChar_eq_self {c : Char} (hc : c.toNat < 128) (h : NotSmall c) : upperChar c = [c] := by
  rw [upperChar, if_pos hc, upperOne, if_pos hc, if_neg]
  rintro ⟨hge, hle⟩
  have hge' : 97 ≤ c.toNat := hge
  have hle' : c.toNat ≤ 122 := hle
  simp only [Outside] at h
  omega

end PingPost.Text
