import PingPost.Proofs.Calendar
import PingPost.Time.Text

/-!
Instants survive being written.

What a text can mean is regular (`Instant.Regular`): it lies in the years of the calendar, and a
leap second stands at the end of a minute, since offsets are whole minutes. A regular instant is
read back from its text to the nanosecond (`Instant.ofRelaxed?_toRfc3339Full`), so an instant that
was read in any form, with any offset, is read again from what is written
(`Instant.ofRelaxed?_stable`).
-/

namespace PingPost

namespace Text

/-! ### Digits -/

theorem digitsValue_eq (ds : List Char) : digitsValue ds = Nat.ofDigitChars 10 ds 0 := rfl

theorem digitsValue_lt {ds : List Char} (h : ∀ c ∈ ds, c.isDigit = true) :
    digitsValue ds < Nat.pow 10 ds.length := by
  induction ds with
  | nil => decide
  | cons c ds ih =>
    obtain ⟨hc, hds⟩ := List.forall_mem_cons.mp h
    have hdigit : c.toNat - 48 ≤ 9 := by
      simp only [Char.isDigit, Bool.and_eq_true, decide_eq_true_eq] at hc
      have hle : c.toNat ≤ 57 := hc.2
      omega
    have hvalue : digitsValue (c :: ds) =
        Nat.pow 10 ds.length * (c.toNat - 48) + digitsValue ds := by
      rw [digitsValue_eq, digitsValue_eq, Nat.ofDigitChars_cons,
        Nat.ofDigitChars_eq_ofDigitChars_zero, Nat.mul_zero, Nat.zero_add]
      rfl
    calc digitsValue (c :: ds) = Nat.pow 10 ds.length * (c.toNat - 48) + digitsValue ds := hvalue
      _ < Nat.pow 10 ds.length * (c.toNat - 48) + Nat.pow 10 ds.length :=
        Nat.add_lt_add_left (ih hds) _
      _ = Nat.pow 10 ds.length * (c.toNat - 48 + 1) := (Nat.mul_succ _ _).symm
      _ ≤ Nat.pow 10 ds.length * 10 := Nat.mul_le_mul_left _ (Nat.succ_le_succ hdigit)

theorem toList_padZero (width n : Nat) :
    (padZero width n).toList =
      List.replicate (width - (Nat.toDigits 10 n).length) '0' ++ Nat.toDigits 10 n :=
  String.toList_ofList

theorem isDigit_of_mem_padZero {width n : Nat} {c : Char} (h : c ∈ (padZero width n).toList) :
    c.isDigit = true := by
  rw [toList_padZero] at h
  rcases List.mem_append.mp h with h | h
  · rw [List.eq_of_mem_replicate h]
    decide
  · exact Nat.isDigit_of_mem_toDigits (by decide) (by decide) h

theorem digitsValue_padZero (width n : Nat) : digitsValue (padZero width n).toList = n := by
  rw [toList_padZero, digitsValue_eq, Nat.ofDigitChars_append, Nat.ofDigitChars_replicate_zero]
  exact Nat.ofDigitChars_ten_toDigits

theorem length_padZero {width n : Nat} (hwidth : 0 < width) (h : n < Nat.pow 10 width) :
    (padZero width n).toList.length = width := by
  have hlength := (Nat.length_toDigits_le_iff (b := 10) (by decide) hwidth).mpr h
  rw [toList_padZero, List.length_append, List.length_replicate]
  omega

theorem le_length_padZero (width n : Nat) : width ≤ (padZero width n).toList.length := by
  rw [toList_padZero, List.length_append, List.length_replicate]
  omega

end Text

namespace TimeText

open Text

/-! ### Reading numbers -/

theorem not_isBlank_of_isDigit {c : Char} (h : c.isDigit = true) : isBlank c = false := by
  simp only [Char.isDigit, Bool.and_eq_true, decide_eq_true_eq] at h
  obtain ⟨hlow, hhigh⟩ : 48 ≤ c.toNat ∧ c.toNat ≤ 57 := h
  simp only [isBlank, Bool.or_eq_false_iff, Bool.and_eq_false_iff, decide_eq_false_iff_not,
    beq_eq_false_iff_ne]
  omega

theorem skip_cons {c : Char} (h : isBlank c = false) (cs : List Char) :
    skip (c :: cs) = c :: cs := by
  simp [skip, h]

theorem skip_digits {ds rest : List Char} (hne : ds ≠ []) (h : ∀ c ∈ ds, c.isDigit = true) :
    skip (ds ++ rest) = ds ++ rest := by
  cases ds with
  | nil => exact (hne rfl).elim
  | cons c ds => exact skip_cons (not_isBlank_of_isDigit (h c List.mem_cons_self)) _

/-- Digits in front of another character are read to their end, if a bound lets them. -/
theorem takeWhile_isDigit {ds rest : List Char} {c : Char} {high : Nat}
    (h : ∀ d ∈ ds, d.isDigit = true) (hc : c.isDigit = false) (hhigh : ds.length ≤ high) :
    ((ds ++ c :: rest).take high).takeWhile Char.isDigit = ds := by
  have htake : (ds ++ c :: rest).take high = ds ++ (c :: rest).take (high - ds.length) := by
    rw [List.take_append, List.take_of_length_le hhigh]
  have hrest : ((c :: rest).take (high - ds.length)).takeWhile Char.isDigit = [] := by
    cases high - ds.length <;> simp [hc]
  rw [htake, List.takeWhile_append_of_pos h, hrest, List.append_nil]

theorem number?_digits {ds rest : List Char} {c : Char} {low high : Nat}
    (h : ∀ d ∈ ds, d.isDigit = true) (hc : c.isDigit = false) (hlow : low ≤ ds.length)
    (hhigh : ds.length ≤ high) :
    number? low high (ds ++ c :: rest) = some (digitsValue ds, c :: rest) := by
  simp only [number?, takeWhile_isDigit h hc hhigh, List.drop_left]
  exact if_neg (Nat.not_lt.mpr hlow)

theorem field?_padZero {n : Nat} (hn : n < 100) {c : Char} (hc : c.isDigit = false)
    (rest : List Char) : field? ((padZero 2 n).toList ++ c :: rest) = some (n, c :: rest) := by
  have hdigits : ∀ d ∈ (padZero 2 n).toList, d.isDigit = true := fun _ => isDigit_of_mem_padZero
  have hlength : (padZero 2 n).toList.length = 2 := length_padZero (by decide) hn
  have hne : (padZero 2 n).toList ≠ [] := List.ne_nil_of_length_pos (by omega)
  rw [field?, skip_digits hne hdigits, number?_digits hdigits hc (by omega) (by omega),
    digitsValue_padZero]

theorem year?_unsigned {c : Char} (h : c.isDigit = true) (cs : List Char) :
    year? (c :: cs) = (number? 1 4 (c :: cs)).map fun (n, r) => ((n : Int), r) := by
  have hsign (d : Char) (hd : d.isDigit = false) : c ≠ d := by
    rintro rfl
    exact Bool.false_ne_true (hd.symm.trans h)
  rw [year?, skip_cons (not_isBlank_of_isDigit h)]
  split
  · exact (hsign '-' (by decide) (List.cons.inj ‹_›).1).elim
  · exact (hsign '+' (by decide) (List.cons.inj ‹_›).1).elim
  · rfl

theorem year?_minus (cs : List Char) :
    year? ('-' :: cs) = (number? 1 cs.length cs).map fun (n, r) => (-(n : Int), r) := rfl

theorem year?_plus (cs : List Char) :
    year? ('+' :: cs) = (number? 1 cs.length cs).map fun (n, r) => ((n : Int), r) := rfl

/-- Four digits are a year without a sign; other years are written with one. -/
theorem year?_yearText (year : Int) (rest : List Char) :
    year? ((yearText year).toList ++ '-' :: rest) = some (year, '-' :: rest) := by
  have hlong (n : Nat) : 4 ≤ (padZero 4 n).toList.length := le_length_padZero 4 n
  have hread (n high : Nat) (hhigh : (padZero 4 n).toList.length ≤ high) :
      number? 1 high ((padZero 4 n).toList ++ '-' :: rest) = some (n, '-' :: rest) := by
    rw [number?_digits (fun _ => isDigit_of_mem_padZero) rfl (Nat.le_trans (by decide) (hlong n))
      hhigh, digitsValue_padZero]
  unfold yearText
  split
  · rename_i hyear
    obtain ⟨n, rfl⟩ := Int.eq_ofNat_of_zero_le hyear.1
    have hfour : (padZero 4 n).toList.length ≤ 4 :=
      Nat.le_of_eq (length_padZero (by decide) (show n < 10000 by omega))
    obtain ⟨d, ds, hds⟩ := List.exists_cons_of_length_pos (Nat.lt_of_lt_of_le (by decide) (hlong n))
    have hd : d.isDigit = true := isDigit_of_mem_padZero (hds ▸ List.mem_cons_self)
    have hvalue := hread n 4 hfour
    rw [hds, List.cons_append] at hvalue
    rw [Int.toNat_natCast, hds, List.cons_append, year?_unsigned hd, hvalue]
    rfl
  · -- After a sign any number of digits is read.
    have hvalue :=
      hread year.natAbs ((padZero 4 year.natAbs).toList ++ '-' :: rest).length (by simp)
    rw [String.toList_append]
    split
    · rename_i hneg
      rw [show "-".toList = ['-'] from rfl, List.singleton_append, List.cons_append, year?_minus,
        hvalue]
      simp only [Option.map_some, Option.some.injEq, Prod.mk.injEq, and_true]
      omega
    · rw [show "+".toList = ['+'] from rfl, List.singleton_append, List.cons_append, year?_plus,
        hvalue]
      simp only [Option.map_some, Option.some.injEq, Prod.mk.injEq, and_true]
      omega

/-- Three, six or nine digits, as many as the nanoseconds need. -/
theorem fraction?_fractionText (t : Instant) :
    fraction? ((fractionText t).toList ++ ['Z']) = some (t.subsecond, ['Z']) := by
  have hpoint (width n : Nat) (hwidth : 0 < width) (hnine : width ≤ 9) (hn : n < Nat.pow 10 width) :
      fraction? (("." ++ padZero width n).toList ++ ['Z']) =
        some (n * Nat.pow 10 (9 - width), ['Z']) := by
    have hlength : (padZero width n).toList.length = width := length_padZero hwidth hn
    have hdigits : (((padZero width n).toList ++ ['Z']).take 9).takeWhile Char.isDigit =
        (padZero width n).toList :=
      takeWhile_isDigit (fun _ => isDigit_of_mem_padZero) rfl (by omega)
    have hne : (padZero width n).toList.isEmpty = false := by
      rw [List.isEmpty_eq_false_iff]
      exact List.ne_nil_of_length_pos (by omega)
    rw [String.toList_append, show ".".toList = ['.'] from rfl, List.singleton_append,
      List.cons_append]
    simp only [fraction?, hdigits, hne, Bool.false_eq_true, if_false, digitsValue_padZero, hlength,
      List.drop_left' hlength]
    rfl
  have hsmall : t.subsecond < 1000000000 := Nat.mod_lt _ (by decide)
  unfold fractionText
  dsimp only
  split
  · rename_i hzero
    rw [hzero]
    rfl
  split
  · rw [hpoint 3 (t.subsecond / 1000000) (by decide) (by decide)
      (show t.subsecond / 1000000 < 1000 by omega), show Nat.pow 10 (9 - 3) = 1000000 from rfl]
    congr 2
    omega
  split
  · rw [hpoint 6 (t.subsecond / 1000) (by decide) (by decide)
      (show t.subsecond / 1000 < 1000000 by omega), show Nat.pow 10 (9 - 6) = 1000 from rfl]
    congr 2
    omega
  · rw [hpoint 9 t.subsecond (by decide) (by decide) hsmall]
    exact congrArg (fun n => some (n, ['Z'])) (Nat.mul_one _)

theorem exists_fractionText (t : Instant) :
    ∃ c r, (fractionText t).toList ++ ['Z'] = c :: r ∧ c.isDigit = false := by
  have hpoint (s : String) : ∃ c r, ("." ++ s).toList ++ ['Z'] = c :: r ∧ c.isDigit = false :=
    ⟨'.', s.toList ++ ['Z'], by rw [String.toList_append]; rfl, by decide⟩
  unfold fractionText
  dsimp only
  split
  · exact ⟨'Z', [], rfl, by decide⟩
  split
  · exact hpoint _
  split
  · exact hpoint _
  · exact hpoint _

/-! ### What a text can mean -/

theorem fraction?_lt {cs r : List Char} {n : Nat} (h : fraction? cs = some (n, r)) :
    n < Instant.nanosPerSecond := by
  unfold fraction? at h
  split at h
  · rename_i r
    obtain ⟨ds, hds⟩ : ∃ ds, ds = (r.take 9).takeWhile Char.isDigit := ⟨_, rfl⟩
    simp only [← hds] at h
    split at h
    · cases h
    cases h
    have hnine : ds.length ≤ 9 := by
      rw [hds]
      exact Nat.le_trans (List.takeWhile_prefix _).length_le (List.length_take_le 9 r)
    have hvalue : digitsValue ds < Nat.pow 10 ds.length :=
      digitsValue_lt fun c hc => List.all_eq_true.mp (List.all_takeWhile) c (hds ▸ hc)
    calc digitsValue ds * Nat.pow 10 (9 - ds.length)
      _ < Nat.pow 10 ds.length * Nat.pow 10 (9 - ds.length) :=
          Nat.mul_lt_mul_of_pos_right hvalue (Nat.pow_pos (by decide))
      _ = Nat.pow 10 (ds.length + (9 - ds.length)) := (Nat.pow_add ..).symm
      _ = Nat.pow 10 9 := by rw [Nat.add_sub_cancel' hnine]
  · cases h
    decide

/-- Offsets are whole minutes. -/
theorem offset?_minutes {separator : List Char → Option (List Char)} {cs r : List Char}
    {offset : Int} (h : offset? separator cs = some (offset, r)) : offset % 60 = 0 := by
  simp only [offset?, Option.bind_eq_bind, Option.pure_def] at h
  split at h
  · split at h
    · cases h
      rfl
    split at h
    · obtain ⟨⟨hours, _⟩, -, h⟩ := Option.bind_eq_some_iff.mp h
      obtain ⟨_, -, h⟩ := Option.bind_eq_some_iff.mp h
      obtain ⟨⟨minutes, _⟩, -, h⟩ := Option.bind_eq_some_iff.mp h
      split at h
      · cases h
      · cases h
        omega
    split at h
    · obtain ⟨⟨hours, _⟩, -, h⟩ := Option.bind_eq_some_iff.mp h
      obtain ⟨_, -, h⟩ := Option.bind_eq_some_iff.mp h
      obtain ⟨⟨minutes, _⟩, -, h⟩ := Option.bind_eq_some_iff.mp h
      split at h
      · cases h
      · cases h
        omega
    · cases h
  · cases h

end TimeText

namespace Instant

open TimeText

/-- An instant in the years of the calendar. Seconds of more than a thousand million nanoseconds
are the last ones of their minutes. -/
structure Regular (t : Instant) : Prop where
  representable : t.isRepresentable = true
  nanos_lt : t.nanos < 2 * nanosPerSecond
  leap : nanosPerSecond ≤ t.nanos → t.seconds % 60 = 59

theorem regular_of_assemble? {date : CivilDate} {hour minute second nanos : Nat} {offset : Int}
    {t : Instant} (hnanos : nanos < nanosPerSecond) (hoffset : offset % 60 = 0)
    (h : assemble? date hour minute second nanos offset = some t) : t.Regular := by
  simp only [assemble?, Option.ite_none_right_eq_some, Option.some.injEq] at h
  obtain ⟨-, hrepresentable, rfl⟩ := h
  refine ⟨hrepresentable, ?_, fun hleap => ?_⟩
  · dsimp only
    split <;> omega
  · dsimp only [secondsPerDay] at hleap ⊢
    split at hleap <;> omega

theorem regular_of_ofRelaxed? {s : String} {t : Instant} (h : ofRelaxed? s = some t) :
    t.Regular := by
  rw [ofRelaxed?, relaxed?] at h
  -- Of what is read, only the fraction and the offset bear on this.
  obtain ⟨⟨year, _⟩, -, h⟩ := Option.bind_eq_some_iff.mp h
  obtain ⟨_, -, h⟩ := Option.bind_eq_some_iff.mp h
  obtain ⟨⟨month, _⟩, -, h⟩ := Option.bind_eq_some_iff.mp h
  obtain ⟨_, -, h⟩ := Option.bind_eq_some_iff.mp h
  obtain ⟨⟨day, _⟩, -, h⟩ := Option.bind_eq_some_iff.mp h
  obtain ⟨_, -, h⟩ := Option.bind_eq_some_iff.mp h
  obtain ⟨⟨hour, _⟩, -, h⟩ := Option.bind_eq_some_iff.mp h
  obtain ⟨_, -, h⟩ := Option.bind_eq_some_iff.mp h
  obtain ⟨⟨minute, _⟩, -, h⟩ := Option.bind_eq_some_iff.mp h
  obtain ⟨_, -, h⟩ := Option.bind_eq_some_iff.mp h
  obtain ⟨⟨second, _⟩, -, h⟩ := Option.bind_eq_some_iff.mp h
  obtain ⟨⟨nanos, r⟩, hnanos, h⟩ := Option.bind_eq_some_iff.mp h
  dsimp only at h
  split at h
  · obtain ⟨-, h⟩ := Option.ite_none_right_eq_some.mp h
    exact regular_of_assemble? (fraction?_lt hnanos) rfl h
  · obtain ⟨⟨offset, _⟩, hoffset, h⟩ := Option.bind_eq_some_iff.mp h
    obtain ⟨-, h⟩ := Option.ite_none_right_eq_some.mp h
    exact regular_of_assemble? (fraction?_lt hnanos) (offset?_minutes hoffset) h

/-! ### The way back -/

variable {t : Instant}

theorem secondOfDay_eq (t : Instant) : (t.secondOfDay : Int) = t.seconds % 86400 := by
  have hemod : t.seconds.fmod secondsPerDay = t.seconds % 86400 :=
    Int.fmod_eq_emod_of_nonneg _ (by decide)
  rw [secondOfDay, hemod]
  omega

theorem days_eq (t : Instant) : t.days = t.seconds / 86400 :=
  Int.fdiv_eq_ediv_of_nonneg _ (by decide)

theorem secondOfDay_lt (t : Instant) : t.secondOfDay < 86400 := by
  have h := secondOfDay_eq t
  omega

theorem Regular.isValid_date (h : t.Regular) : t.date.isValid = true := by
  have hrange := h.representable
  simp only [isRepresentable, Bool.and_eq_true, decide_eq_true_eq] at hrange
  exact CivilDate.isValid_ofDays hrange.1 hrange.2

theorem Regular.clock_lt (h : t.Regular) : t.hour < 24 ∧ t.minute < 60 ∧ t.second ≤ 60 := by
  have hnanos := h.nanos_lt
  have hday := secondOfDay_lt t
  simp only [hour, minute, second, nanosPerSecond] at *
  omega

/-- The parts of a regular instant make it up again. -/
theorem Regular.assemble? (h : t.Regular) :
    TimeText.assemble? t.date t.hour t.minute t.second t.subsecond 0 = some t := by
  have hsecond := secondOfDay_eq t
  have hdays := days_eq t
  have hleap := h.leap
  have hlt := h.nanos_lt
  have hsixty : t.second = 60 ↔ nanosPerSecond ≤ t.nanos := by
    simp only [second, nanosPerSecond] at *
    omega
  have hnanos : t.nanos = t.subsecond + if t.second = 60 then nanosPerSecond else 0 := by
    simp only [subsecond, hsixty, nanosPerSecond] at *
    split <;> omega
  have hclock : t.hour * 3600 + t.minute * 60 + min t.second 59 = t.secondOfDay := by
    simp only [hour, minute, second, nanosPerSecond] at *
    omega
  have hseconds : t.seconds = t.date.toDays * secondsPerDay +
      (t.hour * 3600 + t.minute * 60 + min t.second 59 : Nat) - 0 := by
    rw [hclock, date, CivilDate.toDays_ofDays, secondsPerDay]
    omega
  have ht : (⟨t.date.toDays * secondsPerDay +
      (t.hour * 3600 + t.minute * 60 + min t.second 59 : Nat) - 0,
      t.subsecond + if t.second = 60 then nanosPerSecond else 0⟩ : Instant) = t := by
    rw [← hnanos, ← hseconds]
  simp only [TimeText.assemble?, ht, h.representable, h.isValid_date, h.clock_lt, true_and, if_true]
  rfl

theorem toList_toRfc3339Full (t : Instant) :
    t.toRfc3339Full.toList =
      (yearText t.date.year).toList ++ '-' :: ((Text.padZero 2 t.date.month).toList ++
        '-' :: ((Text.padZero 2 t.date.day).toList ++ 'T' :: ((Text.padZero 2 t.hour).toList ++
          ':' :: ((Text.padZero 2 t.minute).toList ++ ':' :: ((Text.padZero 2 t.second).toList ++
            ((fractionText t).toList ++ ['Z'])))))) := by
  have htext (s : String) : toString s = s := rfl
  simp only [toRfc3339Full, clockText, String.toList_append, List.append_assoc, htext,
    show "-".toList = ['-'] from rfl, show "T".toList = ['T'] from rfl,
    show ":".toList = [':'] from rfl, show "Z".toList = ['Z'] from rfl, List.cons_append,
    List.nil_append]

/-- **A regular instant is read back from its text.** -/
theorem ofRelaxed?_toRfc3339Full (h : t.Regular) : ofRelaxed? t.toRfc3339Full = some t := by
  have hvalid := h.isValid_date
  simp only [CivilDate.isValid, Bool.and_eq_true, decide_eq_true_eq] at hvalid
  have hmonth : t.date.month < 100 := by omega
  have hday : t.date.day < 100 := by
    have hlength := CivilDate.monthLength_le t.date.year t.date.month
    omega
  obtain ⟨hhour, hminute, hsecond⟩ : t.hour < 100 ∧ t.minute < 100 ∧ t.second < 100 := by
    have hclock := h.clock_lt
    omega
  have hhyphen (rest : List Char) : char? '-' (skip ('-' :: rest)) = some rest := by
    rw [skip_cons (by decide), char?, if_pos rfl]
  have hcolon (rest : List Char) : char? ':' (skip (':' :: rest)) = some rest := by
    rw [skip_cons (by decide), char?, if_pos rfl]
  have hbetween (rest : List Char) : between? ('T' :: rest) = some rest := rfl
  have hfraction := fraction?_fractionText t
  obtain ⟨c, r, hcr, hc⟩ := exists_fractionText t
  rw [hcr] at hfraction
  -- From left to right: each part ends where the next character is no part of it.
  rw [ofRelaxed?, toList_toRfc3339Full, hcr, relaxed?]
  refine Option.bind_eq_some_iff.mpr ⟨_, year?_yearText _ _, ?_⟩
  refine Option.bind_eq_some_iff.mpr ⟨_, hhyphen _, ?_⟩
  refine Option.bind_eq_some_iff.mpr ⟨_, field?_padZero hmonth (by decide) _, ?_⟩
  refine Option.bind_eq_some_iff.mpr ⟨_, hhyphen _, ?_⟩
  refine Option.bind_eq_some_iff.mpr ⟨_, field?_padZero hday (by decide) _, ?_⟩
  refine Option.bind_eq_some_iff.mpr ⟨_, hbetween _, ?_⟩
  refine Option.bind_eq_some_iff.mpr ⟨_, field?_padZero hhour (by decide) _, ?_⟩
  refine Option.bind_eq_some_iff.mpr ⟨_, hcolon _, ?_⟩
  refine Option.bind_eq_some_iff.mpr ⟨_, field?_padZero hminute (by decide) _, ?_⟩
  refine Option.bind_eq_some_iff.mpr ⟨_, hcolon _, ?_⟩
  refine Option.bind_eq_some_iff.mpr ⟨_, field?_padZero hsecond hc _, ?_⟩
  refine Option.bind_eq_some_iff.mpr ⟨_, hfraction, ?_⟩
  exact h.assemble?

/-- What was read from a text in any form is read again from the text that is written. -/
theorem ofRelaxed?_stable {s : String} (h : ofRelaxed? s = some t) :
    ofRelaxed? t.toRfc3339Full = some t :=
  ofRelaxed?_toRfc3339Full (regular_of_ofRelaxed? h)

end Instant

end PingPost
