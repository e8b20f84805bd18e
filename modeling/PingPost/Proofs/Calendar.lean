import PingPost.Time.Instant

/-!
The calendar's two conversions fit together.

A day is placed in an era of 400 years by its century, its cycle of four years, its year in the
cycle and its day in the year (`CivilDate.EraDay`), where centuries and cycles may end in a leap
day. In these terms both conversions are sums, so the day number of the date of a day is that day
again (`CivilDate.toDays_ofDays`), and the date is one of the calendar (`CivilDate.isValid_ofDays`).
-/

namespace PingPost.CivilDate

/-- Day `n` of an era is day `d` of year `s` of cycle `q` of century `c`. Years start in March. A
year of 366 days is the last one of its cycle, and the last one of a century only in the last
century. -/
structure EraDay (n c q s d : Int) : Prop where
  eq : n = 36524 * c + 1461 * q + 365 * s + d
  century : 0 ≤ c ∧ c ≤ 3
  cycle : 0 ≤ q ∧ q ≤ 24
  year : 0 ≤ s ∧ s ≤ 3
  day : 0 ≤ d ∧ d ≤ 365
  leap : d = 365 → s = 3 ∧ (q = 24 → c = 3)

theorem exists_eraDay {n : Int} (h0 : 0 ≤ n) (h : n < 146097) : ∃ c q s d, EraDay n c q s d := by
  obtain ⟨c, hc⟩ : ∃ c, c = min (n / 36524) 3 := ⟨_, rfl⟩
  obtain ⟨q, hq⟩ : ∃ q, q = (n - 36524 * c) / 1461 := ⟨_, rfl⟩
  obtain ⟨s, hs⟩ : ∃ s, s = min ((n - 36524 * c - 1461 * q) / 365) 3 := ⟨_, rfl⟩
  refine ⟨c, q, s, n - 36524 * c - 1461 * q - 365 * s, ?_, ?_, ?_, ?_, ?_, ?_⟩ <;> omega

namespace EraDay

variable {n c q s d : Int}

/-- The leap days before a day, counted by division, make up for what the divisor 365 leaves out. -/
theorem yearOfEra (h : EraDay n c q s d) :
    (n - n / 1460 + n / 36524 - n / 146096) / 365 = 100 * c + 4 * q + s := by
  obtain ⟨rfl, hc, hq, hs, hd, hleap⟩ := h
  have hcentury : (36524 * c + 1461 * q + 365 * s + d) / 36524 -
      (36524 * c + 1461 * q + 365 * s + d) / 146096 = c := by
    have hrest : 1461 * q + 365 * s + d ≤ 36523 ∨ c = 3 ∧ 1461 * q + 365 * s + d ≤ 36524 := by
      omega
    rcases hrest with hrest | ⟨rfl, hrest⟩
    · have hquot : (36524 * c + 1461 * q + 365 * s + d) / 36524 = c := by omega
      have hlast : (36524 * c + 1461 * q + 365 * s + d) / 146096 = 0 := by omega
      omega
    · omega
  have hcycle : (36524 * c + 1461 * q + 365 * s + d) / 1460 =
      25 * c + q + (24 * c + q + 365 * s + d) / 1460 := by omega
  omega

/-- The days before a year of the era, and the days in it. -/
theorem eq_start (h : EraDay n c q s d) {y : Int} (hy : y = 100 * c + 4 * q + s) :
    n = 365 * y + y / 4 - y / 100 + d := by
  obtain ⟨rfl, hc, hq, hs, -, -⟩ := h
  omega

theorem year_range (h : EraDay n c q s d) :
    0 ≤ 100 * c + 4 * q + s ∧ 100 * c + 4 * q + s < 400 := by
  obtain ⟨-, hc, hq, hs, -, -⟩ := h
  omega

/-- The leap day stands in February of a leap year. -/
theorem isLeap (h : EraDay n c q s d) (hd : d = 365) (era : Int) :
    CivilDate.isLeap (100 * c + 4 * q + s + era * 400 + 1) = true := by
  obtain ⟨-, hc, hq, -, -, hleap⟩ := h
  obtain ⟨rfl, hlast⟩ := hleap hd
  simp only [CivilDate.isLeap, Bool.and_eq_true, Bool.or_eq_true, beq_iff_eq, bne_iff_ne]
  omega

end EraDay

/-- The date of day `d` of year `y`, both counted from March. -/
def ofMarchDay (y d : Int) : CivilDate :=
  let shifted := (5 * d + 2) / 153
  let month := (if shifted < 10 then shifted + 3 else shifted - 9).toNat
  { year := y + (if month ≤ 2 then 1 else 0), month
    day := (d - (153 * shifted + 2) / 5 + 1).toNat }

variable {n era c q s d : Int}

theorem ofDays_eq (h : EraDay (n + 719468 - era * 146097) c q s d) :
    ofDays n = ofMarchDay (100 * c + 4 * q + s + era * 400) d := by
  have hera : (n + 719468).fdiv 146097 = era := by
    obtain ⟨heq, hc, hq, hs, hd, hleap⟩ := h
    rw [Int.fdiv_eq_ediv_of_nonneg _ (by decide)]
    omega
  have hday : n + 719468 - era * 146097 - (365 * (100 * c + 4 * q + s) +
      (100 * c + 4 * q + s) / 4 - (100 * c + 4 * q + s) / 100) = d := by
    have hstart := h.eq_start rfl
    omega
  simp only [ofDays, hera, h.yearOfEra, hday, ofMarchDay]

/-- January and February end the year that starts in March. -/
theorem toDays_ofMarchDay {y : Int} (hy : 0 ≤ y ∧ y < 400) (hd : 0 ≤ d ∧ d ≤ 365) (era : Int) :
    (ofMarchDay (y + era * 400) d).toDays =
      era * 146097 + (365 * y + y / 4 - y / 100 + d) - 719468 := by
  obtain ⟨m, hm⟩ : ∃ m, m = (5 * d + 2) / 153 := ⟨_, rfl⟩
  have hday : ((d - (153 * m + 2) / 5 + 1).toNat : Int) = d - (153 * m + 2) / 5 + 1 := by omega
  simp only [ofMarchDay, toDays, ← hm, hday,
    Int.fdiv_eq_ediv_of_nonneg _ (show (0 : Int) ≤ 400 by decide)]
  by_cases hspring : m < 10
  · have hmonth : ¬(m + 3).toNat ≤ 2 := by omega
    have hshifted : (((m + 3).toNat : Int) + 9) % 12 = m := by omega
    have hera : (y + era * 400 + 0) / 400 = era := by omega
    have hyear : y + era * 400 + 0 - era * 400 = y := by omega
    simp only [if_pos hspring, if_neg hmonth, hshifted, hera, hyear]
    omega
  · have hmonth : (m - 9).toNat ≤ 2 := by omega
    have hshifted : (((m - 9).toNat : Int) + 9) % 12 = m := by omega
    have hera : (y + era * 400 + 1 - 1) / 400 = era := by omega
    have hyear : y + era * 400 + 1 - 1 - era * 400 = y := by omega
    simp only [if_neg hspring, if_pos hmonth, hshifted, hera, hyear]
    omega

theorem exists_ofDays (n : Int) :
    ∃ era c q s d, EraDay (n + 719468 - era * 146097) c q s d ∧
      ofDays n = ofMarchDay (100 * c + 4 * q + s + era * 400) d := by
  obtain ⟨era, hera⟩ : ∃ era, era = (n + 719468) / 146097 := ⟨_, rfl⟩
  obtain ⟨c, q, s, d, h⟩ :=
    exists_eraDay (n := n + 719468 - era * 146097) (by omega) (by omega)
  exact ⟨era, c, q, s, d, h, ofDays_eq h⟩

/-- **Every day has its own date.** -/
theorem toDays_ofDays (n : Int) : (ofDays n).toDays = n := by
  obtain ⟨era, c, q, s, d, h, heq⟩ := exists_ofDays n
  rw [heq, toDays_ofMarchDay h.year_range h.day, ← h.eq_start rfl]
  omega

/-- The months from March have 31 and 30 days in turn, in fives, and February ends with the day of
the year. -/
theorem ofMarchDay_month {y : Int} (hd : 0 ≤ d ∧ d ≤ 365)
    (hleap : d = 365 → isLeap (y + 1) = true) :
    1 ≤ (ofMarchDay y d).month ∧ (ofMarchDay y d).month ≤ 12 ∧ 1 ≤ (ofMarchDay y d).day ∧
      (ofMarchDay y d).day ≤ monthLength (ofMarchDay y d).year (ofMarchDay y d).month := by
  obtain ⟨m, hm⟩ : ∃ m, m = (5 * d + 2) / 153 := ⟨_, rfl⟩
  simp only [ofMarchDay, ← hm]
  by_cases hfebruary : m = 11
  · have hmonth : (if (11 : Int) < 10 then (11 : Int) + 3 else 11 - 9).toNat = 2 := rfl
    have hlength : monthLength (y + 1) 2 = if isLeap (y + 1) = true then 29 else 28 := rfl
    subst hfebruary
    simp only [hmonth, Nat.le_refl, if_true, hlength]
    by_cases hlast : d = 365
    · rw [if_pos (hleap hlast)]
      omega
    · split <;> omega
  · have hothers : m = 0 ∨ m = 1 ∨ m = 2 ∨ m = 3 ∨ m = 4 ∨ m = 5 ∨ m = 6 ∨ m = 7 ∨ m = 8 ∨
        m = 9 ∨ m = 10 := by omega
    rcases hothers with rfl | rfl | rfl | rfl | rfl | rfl | rfl | rfl | rfl | rfl | rfl <;>
      simp [monthLength] <;> omega

theorem monthLength_le (year : Int) (month : Nat) : monthLength year month ≤ 31 := by
  unfold monthLength
  split
  · split <;> decide
  all_goals decide

theorem ofMarchDay_year (y : Int) (hd : 0 ≤ d ∧ d ≤ 365) :
    (ofMarchDay y d).year = if d < 306 then y else y + 1 := by
  simp only [ofMarchDay]
  split <;> split <;> omega

/-- The first day of the calendar is day 306 of a year from March, the last one day 305. -/
theorem ofDays_year (hfirst : toDays ⟨firstYear, 1, 1⟩ ≤ n)
    (hlast : n ≤ toDays ⟨lastYear, 12, 31⟩) :
    firstYear ≤ (ofDays n).year ∧ (ofDays n).year ≤ lastYear := by
  obtain ⟨era, c, q, s, d, h, heq⟩ := exists_ofDays n
  have hstart := h.eq_start rfl
  have hyear := h.year_range
  have hd := h.day
  obtain ⟨y, hy⟩ : ∃ y, y = 100 * c + 4 * q + s := ⟨_, rfl⟩
  rw [heq, ofMarchDay_year _ hd]
  simp only [← hy] at hstart hyear ⊢
  rw [show toDays ⟨firstYear, 1, 1⟩ = -96465292 by decide] at hfirst
  rw [show toDays ⟨lastYear, 12, 31⟩ = 95026236 by decide] at hlast
  have hera : -656 ≤ era ∧ era ≤ 655 := by omega
  simp only [firstYear, lastYear]
  split <;> omega

/-- **The date of a day in the range of the calendar is one of its dates.** -/
theorem isValid_ofDays (hfirst : toDays ⟨firstYear, 1, 1⟩ ≤ n)
    (hlast : n ≤ toDays ⟨lastYear, 12, 31⟩) : (ofDays n).isValid = true := by
  obtain ⟨hyear, hyear'⟩ := ofDays_year hfirst hlast
  obtain ⟨era, c, q, s, d, h, heq⟩ := exists_ofDays n
  obtain ⟨hmonth, hmonth', hday, hday'⟩ :=
    ofMarchDay_month (y := 100 * c + 4 * q + s + era * 400) h.day fun hd => h.isLeap hd era
  rw [heq] at hyear hyear' ⊢
  simp only [isValid, Bool.and_eq_true, decide_eq_true_eq]
  exact ⟨⟨⟨⟨⟨hyear, hyear'⟩, hmonth⟩, hmonth'⟩, hday⟩, hday'⟩

end PingPost.CivilDate
