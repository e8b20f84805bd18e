import PingPost.Proofs.CanonicalForms
import PingPost.Proofs.Timestamps
import PingPost.Transform.Date

/-!
Dates written to the second, and read again.

A date that the transforms read is regular (`Transform.regular_of_instant`). Its text to the second
means its whole second (`Instant.whole`), and all date transforms write the same for the date and
its whole second (`Transform.DateForm`). The text is read again just when the year has four digits
(`Instant.HasFourDigitYear`): years before 0 and after 9999 are written with a sign, and no reader
takes a date and time with a sign.
-/

namespace PingPost

open Text TimeText

/-! ### The years of the calendar -/

/-- Day numbers from the first to the last day of the calendar, by the year and day from March. -/
theorem CivilDate.marchDay_range {y d : Int} (hd : 0 ≤ d ∧ d ≤ 367)
    (hlow : -262143 ≤ y ∨ y = -262144 ∧ 306 ≤ d) (hhigh : y < 262142 ∨ y = 262142 ∧ d ≤ 305) :
    -96465292 ≤ y / 400 * 146097 + ((y - y / 400 * 400) * 365 + (y - y / 400 * 400) / 4 -
        (y - y / 400 * 400) / 100 + d) - 719468 ∧
      y / 400 * 146097 + ((y - y / 400 * 400) * 365 + (y - y / 400 * 400) / 4 -
        (y - y / 400 * 400) / 100 + d) - 719468 ≤ 95026236 := by
  obtain ⟨era, hera⟩ : ∃ era, era = y / 400 := ⟨_, rfl⟩
  obtain ⟨z, hz⟩ : ∃ z, z = y - era * 400 := ⟨_, rfl⟩
  rw [← hera, ← hz]
  have hyear : 0 ≤ z ∧ z < 400 := by omega
  have hleaps : 0 ≤ z / 4 - z / 100 ∧ z / 4 - z / 100 ≤ 96 := by omega
  constructor
  · rcases Int.lt_or_le era (-655) with hfirst | hlater
    · omega
    · omega
  · rcases Int.lt_or_le era 655 with hearlier | hlast
    · omega
    · omega

theorem CivilDate.toDays_of_isValid {d : CivilDate} (h : d.isValid = true) :
    toDays ⟨firstYear, 1, 1⟩ ≤ d.toDays ∧ d.toDays ≤ toDays ⟨lastYear, 12, 31⟩ := by
  simp only [isValid, Bool.and_eq_true, decide_eq_true_eq] at h
  obtain ⟨⟨⟨⟨⟨hfirst, hlast⟩, hmonth⟩, hmonth'⟩, hday⟩, hday'⟩ := h
  simp only [firstYear, lastYear] at hfirst hlast
  have hlength := monthLength_le d.year d.month
  rw [show toDays ⟨firstYear, 1, 1⟩ = -96465292 by decide,
    show toDays ⟨lastYear, 12, 31⟩ = 95026236 by decide]
  simp only [toDays, Int.fdiv_eq_ediv_of_nonneg _ (show (0 : Int) ≤ 400 by decide)]
  split
  · have hshifted : ((d.month : Int) + 9) % 12 = d.month + 9 := by omega
    rw [hshifted]
    apply marchDay_range <;> omega
  · have hshifted : ((d.month : Int) + 9) % 12 = d.month - 3 := by omega
    rw [hshifted]
    apply marchDay_range <;> omega

/-- Both forms of a bare date are read for dates of the calendar only. -/
theorem CivilDate.isValid_of_ofText? {s : String} {d : CivilDate} (h : ofText? s = some d) :
    d.isValid = true := by
  rw [ofText?, Option.or_eq_some_iff] at h
  rcases h with h | ⟨-, h⟩
  · rw [hyphenDate?] at h
    obtain ⟨⟨year, _⟩, -, h⟩ := Option.bind_eq_some_iff.mp h
    obtain ⟨_, -, h⟩ := Option.bind_eq_some_iff.mp h
    obtain ⟨⟨month, _⟩, -, h⟩ := Option.bind_eq_some_iff.mp h
    obtain ⟨_, -, h⟩ := Option.bind_eq_some_iff.mp h
    obtain ⟨⟨day, _⟩, -, h⟩ := Option.bind_eq_some_iff.mp h
    obtain ⟨-, h⟩ := Option.ite_none_right_eq_some.mp h
    exact (Option.filter_eq_some_iff.mp h).2
  · rw [slashDate?] at h
    obtain ⟨⟨month, _⟩, -, h⟩ := Option.bind_eq_some_iff.mp h
    obtain ⟨_, -, h⟩ := Option.bind_eq_some_iff.mp h
    obtain ⟨⟨day, _⟩, -, h⟩ := Option.bind_eq_some_iff.mp h
    obtain ⟨_, -, h⟩ := Option.bind_eq_some_iff.mp h
    obtain ⟨⟨year, _⟩, -, h⟩ := Option.bind_eq_some_iff.mp h
    obtain ⟨-, h⟩ := Option.ite_none_right_eq_some.mp h
    exact (Option.filter_eq_some_iff.mp h).2

namespace Instant

variable {t : Instant}

theorem regular_of_seconds {n : Int} (h : isRepresentable ⟨n, 0⟩ = true) : Regular ⟨n, 0⟩ where
  representable := h
  nanos_lt := Nat.mul_pos (by decide) (by decide)
  leap hlong := absurd hlong (Nat.not_le.mpr (show 0 < nanosPerSecond by decide))

theorem regular_of_ofSeconds? {n : Int} (h : ofSeconds? n = some t) : t.Regular := by
  obtain ⟨hrange, heq⟩ := Option.ite_none_right_eq_some.mp h
  cases heq
  exact regular_of_seconds hrange

theorem regular_of_date {d : CivilDate} (h : d.isValid = true) : (ofDate d).Regular := by
  have hrange := CivilDate.toDays_of_isValid h
  apply regular_of_seconds
  have hdays : days ⟨d.toDays * secondsPerDay, 0⟩ = d.toDays := by
    rw [days_eq]
    exact Int.mul_ediv_cancel _ (by decide)
  rw [isRepresentable, hdays, Bool.and_eq_true, decide_eq_true_eq, decide_eq_true_eq]
  exact hrange

theorem regular_of_ofRfc3339? {s : String} (h : ofRfc3339? s = some t) : t.Regular := by
  rw [ofRfc3339?, strict?] at h
  -- Of what is read, only the fraction and the offset bear on this.
  obtain ⟨⟨year, _⟩, -, h⟩ := Option.bind_eq_some_iff.mp h
  obtain ⟨_, -, h⟩ := Option.bind_eq_some_iff.mp h
  obtain ⟨⟨month, _⟩, -, h⟩ := Option.bind_eq_some_iff.mp h
  obtain ⟨_, -, h⟩ := Option.bind_eq_some_iff.mp h
  obtain ⟨⟨day, _⟩, -, h⟩ := Option.bind_eq_some_iff.mp h
  obtain ⟨_, -, h⟩ := Option.bind_eq_some_iff.mp h
  obtain ⟨⟨hour, _⟩, -, h⟩ := Option.bind_eq_some_iff.mp h
  obtain ⟨_, -, h⟩ := Option.bind_eq_some_iff.mp h
  obtain ⟨⟨minute, _⟩, -, h⟩ := Option.bind_eq_some_iff.mp h
  obtain ⟨_, -, h⟩ := Option.bind_eq_some_iff.mp h
  obtain ⟨⟨second, _⟩, -, h⟩ := Option.bind_eq_some_iff.mp h
  obtain ⟨⟨nanos, _⟩, hnanos, h⟩ := Option.bind_eq_some_iff.mp h
  obtain ⟨⟨offset, _⟩, hoffset, h⟩ := Option.bind_eq_some_iff.mp h
  obtain ⟨-, h⟩ := Option.ite_none_right_eq_some.mp h
  exact regular_of_assemble? (fraction?_lt hnanos) (offset?_minutes hoffset) h

/-! ### Whole seconds -/

/-- The instant without the fraction of its second. -/
def whole (t : Instant) : Instant := ⟨t.seconds, t.nanos - t.subsecond⟩

theorem subsecond_whole (t : Instant) : t.whole.subsecond = 0 := by
  simp only [whole, subsecond, nanosPerSecond]
  omega

theorem second_whole (t : Instant) : t.whole.second = t.second := by
  have hnanos : t.whole.nanos / nanosPerSecond = t.nanos / nanosPerSecond := by
    simp only [whole, subsecond, nanosPerSecond]
    omega
  exact congrArg (t.secondOfDay % 60 + ·) hnanos

theorem fractionText_whole (t : Instant) : fractionText t.whole = "" :=
  if_pos (subsecond_whole t)

theorem toRfc3339_whole (t : Instant) : t.whole.toRfc3339 = t.toRfc3339 := by
  rw [toRfc3339, toRfc3339, clockText, clockText, second_whole]
  rfl

theorem Regular.whole (h : t.Regular) : t.whole.Regular := by
  have hnanos := h.nanos_lt
  have hleap := h.leap
  refine ⟨h.representable, ?_, fun hlong => hleap ?_⟩
  · exact Nat.lt_of_le_of_lt (Nat.sub_le _ _) hnanos
  · exact Nat.le_trans hlong (Nat.sub_le _ _)

/-- Whether the year is written with four digits and no sign. -/
def HasFourDigitYear (t : Instant) : Prop := 0 ≤ t.date.year ∧ t.date.year ≤ 9999

theorem toList_toRfc3339 (t : Instant) :
    t.toRfc3339.toList =
      (yearText t.date.year).toList ++ '-' :: ((padZero 2 t.date.month).toList ++
        '-' :: ((padZero 2 t.date.day).toList ++ 'T' :: ((padZero 2 t.hour).toList ++
          ':' :: ((padZero 2 t.minute).toList ++ ':' :: ((padZero 2 t.second).toList ++
            ['Z']))))) := by
  have hfull : t.whole.toRfc3339Full = t.toRfc3339 := by
    rw [toRfc3339Full, fractionText_whole, String.append_empty, ← toRfc3339_whole, toRfc3339]
  rw [← hfull, toList_toRfc3339Full, fractionText_whole, second_whole]
  rfl

/-- The numbers of a regular instant fit their places. -/
theorem Regular.fits (h : t.Regular) : t.date.month < 100 ∧ t.date.day < 100 ∧ t.hour < 100 ∧
    t.minute < 100 ∧ t.second < 100 := by
  have hvalid := h.isValid_date
  have hlength := CivilDate.monthLength_le t.date.year t.date.month
  have hclock := h.clock_lt
  simp only [CivilDate.isValid, Bool.and_eq_true, decide_eq_true_eq] at hvalid
  omega

theorem number?_padZero {width n : Nat} (hwidth : 0 < width) (hn : n < Nat.pow 10 width) {c : Char}
    (hc : c.isDigit = false) (rest : List Char) :
    number? width width ((padZero width n).toList ++ c :: rest) = some (n, c :: rest) := by
  have hlength := length_padZero hwidth hn
  rw [number?_digits (fun _ => isDigit_of_mem_padZero) hc hlength.ge hlength.le,
    digitsValue_padZero]

/-- **A regular instant in a year of four digits is read back to its whole second.** -/
theorem Regular.ofRfc3339?_toRfc3339 (h : t.Regular) (hyear : t.HasFourDigitYear) :
    ofRfc3339? t.toRfc3339 = some t.whole := by
  obtain ⟨hlow, hhigh⟩ := hyear
  obtain ⟨n, hn⟩ := Int.eq_ofNat_of_zero_le hlow
  obtain ⟨hmonth, hday, hhour, hminute, hsecond⟩ := h.fits
  have hfour : n < Nat.pow 10 4 := by
    change n < 10000
    omega
  have htext : yearText t.date.year = padZero 4 n := by
    rw [yearText, if_pos ⟨hlow, hhigh⟩, hn, Int.toNat_natCast]
  have hhyphen (rest : List Char) : char? '-' ('-' :: rest) = some rest := rfl
  have hcolon (rest : List Char) : char? ':' (':' :: rest) = some rest := rfl
  have hbetween (rest : List Char) : between? ('T' :: rest) = some rest := rfl
  -- From left to right: each part ends where the next character is no digit.
  rw [ofRfc3339?, toList_toRfc3339, htext, strict?]
  refine Option.bind_eq_some_iff.mpr ⟨_, number?_padZero (by decide) hfour (by decide) _, ?_⟩
  refine Option.bind_eq_some_iff.mpr ⟨_, hhyphen _, ?_⟩
  refine Option.bind_eq_some_iff.mpr ⟨_, number?_padZero (by decide) hmonth (by decide) _, ?_⟩
  refine Option.bind_eq_some_iff.mpr ⟨_, hhyphen _, ?_⟩
  refine Option.bind_eq_some_iff.mpr ⟨_, number?_padZero (by decide) hday (by decide) _, ?_⟩
  refine Option.bind_eq_some_iff.mpr ⟨_, hbetween _, ?_⟩
  refine Option.bind_eq_some_iff.mpr ⟨_, number?_padZero (by decide) hhour (by decide) _, ?_⟩
  refine Option.bind_eq_some_iff.mpr ⟨_, hcolon _, ?_⟩
  refine Option.bind_eq_some_iff.mpr ⟨_, number?_padZero (by decide) hminute (by decide) _, ?_⟩
  refine Option.bind_eq_some_iff.mpr ⟨_, hcolon _, ?_⟩
  refine Option.bind_eq_some_iff.mpr ⟨_, number?_padZero (by decide) hsecond (by decide) _, ?_⟩
  refine Option.bind_eq_some_iff.mpr ⟨(0, ['Z']), rfl, ?_⟩
  refine Option.bind_eq_some_iff.mpr ⟨(0, []), rfl, ?_⟩
  have hassemble := h.whole.assemble?
  rw [subsecond_whole, second_whole] at hassemble
  have hdate : (⟨n, t.date.month, t.date.day⟩ : CivilDate) = t.whole.date := by
    rw [← hn]
    rfl
  dsimp only
  rw [hdate]
  exact hassemble

/-- A year that is no number of four digits starts with a sign. -/
theorem exists_sign (hyear : ¬t.HasFourDigitYear) :
    ∃ sign rest, t.toRfc3339.toList = sign :: rest ∧ (sign = '-' ∨ sign = '+') := by
  have htext : yearText t.date.year =
      (if t.date.year < 0 then "-" else "+") ++ padZero 4 t.date.year.natAbs := if_neg hyear
  rw [toList_toRfc3339, htext, String.toList_append]
  split
  · exact ⟨'-', _, rfl, .inl rfl⟩
  · exact ⟨'+', _, rfl, .inr rfl⟩

theorem number?_sign {low high : Nat} (hlow : 0 < low) {sign : Char} (hsign : sign.isDigit = false)
    (rest : List Char) : number? low high (sign :: rest) = none := by
  have hnone : ((sign :: rest).take high).takeWhile Char.isDigit = [] := by
    cases high <;> simp [hsign]
  simp only [number?, hnone, List.length_nil, hlow, if_true]

/-- A date and time whose year has a sign is neither a strict date and time nor a bare date. -/
theorem Regular.unread (h : t.Regular) (hyear : ¬t.HasFourDigitYear) :
    ofRfc3339? t.toRfc3339 = none ∧ CivilDate.ofText? t.toRfc3339 = none := by
  obtain ⟨sign, rest, htext, hsign⟩ := exists_sign hyear
  obtain ⟨hblank, hdigit⟩ : isBlank sign = false ∧ sign.isDigit = false := by
    rcases hsign with rfl | rfl <;> decide
  obtain ⟨hmonth, hday, -⟩ := h.fits
  have hhyphen (rest : List Char) : char? '-' ('-' :: rest) = some rest := rfl
  have hstrict : ofRfc3339? t.toRfc3339 = none := by
    rw [ofRfc3339?, htext, strict?, number?_sign (by decide) hdigit]
    rfl
  have hslash : slashDate? t.toRfc3339.toList = none := by
    rw [htext, slashDate?, field?, skip_cons hblank, number?_sign (by decide) hdigit]
    rfl
  have hdate : hyphenDate? t.toRfc3339.toList = none := by
    -- The date is read to its end, where the time begins.
    rw [toList_toRfc3339, hyphenDate?, year?_yearText]
    simp only [Option.bind_eq_bind, Option.bind_some, hhyphen,
      field?_padZero hmonth (show '-'.isDigit = false by decide),
      field?_padZero hday (show 'T'.isDigit = false by decide)]
    rfl
  exact ⟨hstrict, by rw [CivilDate.ofText?, hdate, hslash, Option.or_none]⟩

theorem trim_toRfc3339 (t : Instant) : trim t.toRfc3339 = t.toRfc3339 := by
  have hnumber {width n : Nat} {c : Char} (h : c ∈ (padZero width n).toList) : isBlank c = false :=
    not_isBlank_of_isDigit (isDigit_of_mem_padZero h)
  have hyear : ∀ c ∈ (yearText t.date.year).toList, isBlank c = false := by
    intro c hc
    unfold yearText at hc
    split at hc
    · exact hnumber hc
    · rw [String.toList_append] at hc
      rcases List.mem_append.mp hc with hc | hc
      · split at hc <;> cases List.mem_singleton.mp hc <;> decide
      · exact hnumber hc
  rw [trim, trimChars_eq_self, String.ofList_toList]
  intro c hc
  rw [toList_toRfc3339] at hc
  simp only [List.mem_append, List.mem_cons, List.not_mem_nil, or_false] at hc
  rcases hc with h | rfl | h | rfl | h | rfl | h | rfl | h | rfl | h | rfl
  · exact hyear c h
  all_goals first | decide | exact hnumber h

end Instant

namespace Transform

open Catalogue (standard)

variable {spec a : TransformSpec} {v s w : Json} {t : Instant}

theorem regular_of_instant (h : instant v = .ok t) : t.Regular := by
  unfold instant at h
  split at h
  · split at h
    · split at h
      · cases h
        exact Instant.regular_of_ofSeconds? ‹_›
      · cases h
    · cases h
  · cases h
  · dsimp only at h
    split at h
    · cases h
      exact Instant.regular_of_ofRfc3339? ‹_›
    split at h
    · cases h
      exact Instant.regular_of_date (CivilDate.isValid_of_ofText? ‹_›)
    · cases h

theorem instant_toRfc3339 (h : t.Regular) (hyear : t.HasFourDigitYear) :
    instant (.text t.toRfc3339) = .ok t.whole := by
  have htext : (Json.text t.toRfc3339).asText = t.toRfc3339 := rfl
  unfold instant
  simp only [htext, Instant.trim_toRfc3339, h.ofRfc3339?_toRfc3339 hyear]

theorem instant_toRfc3339_of_sign (h : t.Regular) (hyear : ¬t.HasFourDigitYear) :
    instant (.text t.toRfc3339) = .error s!"'{t.toRfc3339}' is not a recognised date" := by
  have htext : (Json.text t.toRfc3339).asText = t.toRfc3339 := rfl
  obtain ⟨hstrict, hdate⟩ := h.unread hyear
  unfold instant
  simp only [htext, Instant.trim_toRfc3339, hstrict, hdate]

/-- The transform of a name writes a date, and the same for its whole second. -/
structure DateForm (name : String) (write : Instant → Json) : Prop extends
    Form name instant write where
  whole : ∀ t, write t.whole = write t

theorem dateIso_form : DateForm "date.iso" fun t => .text t.toRfc3339 where
  toForm := .of_get? ((Table.get?_ofList ..).trans rfl) fun _ _ => rfl
  whole t := by rw [Instant.toRfc3339_whole]

/-- The names of the transforms that write a date. -/
def dateForms : List String := ["date.iso", "date.timestamp", "date.year", "date.usDate"]

theorem exists_dateForm {name : String} (h : name ∈ dateForms) : ∃ write, DateForm name write := by
  simp only [dateForms, List.mem_cons, List.not_mem_nil, or_false] at h
  rcases h with rfl | rfl | rfl | rfl
  · exact ⟨_, dateIso_form⟩
  · exact ⟨fun t => .int t.seconds,
      .of_get? ((Table.get?_ofList ..).trans rfl) fun _ _ => rfl, fun _ => rfl⟩
  · exact ⟨_, .of_get? (f := year) ((Table.get?_ofList ..).trans rfl) fun _ _ => rfl,
      fun _ => rfl⟩
  · exact ⟨_, .of_get? (f := usDate) ((Table.get?_ofList ..).trans rfl) fun _ _ => rfl,
      fun _ => rfl⟩

/-- Whether a text is the canonical form of a date: all date transforms read it as they read the
date, and `date.iso` leaves it alone. -/
def IsCanonicalDate (s v : Json) : Prop :=
  (∀ spec : TransformSpec, spec.name = "date.iso" → standard.apply spec s = .ok s) ∧
    ∀ spec : TransformSpec, spec.name ∈ dateForms →
      ∃ w, standard.apply spec s = .ok w ∧ standard.apply spec v = .ok w

/-- **The text of a date is its canonical form just when the year has four digits.** -/
theorem dateIso_canonical_iff (hspec : spec.name = "date.iso") (h : standard.apply spec v = .ok s) :
    ∃ t, instant v = .ok t ∧ s = .text t.toRfc3339 ∧
      (IsCanonicalDate s v ↔ t.HasFourDigitYear) := by
  obtain ⟨t, ht, rfl⟩ := (dateIso_form.eq_ok_iff hspec).mp h
  have hregular := regular_of_instant ht
  refine ⟨t, ht, rfl, ?_⟩
  constructor
  · rintro ⟨hiso, -⟩
    obtain ⟨t', ht', -⟩ := (dateIso_form.eq_ok_iff hspec).mp (hiso spec hspec)
    by_contra hyear
    rw [instant_toRfc3339_of_sign hregular hyear] at ht'
    cases ht'
  · intro hyear
    have hread := instant_toRfc3339 hregular hyear
    constructor
    · intro a ha
      exact (dateIso_form.eq_ok_iff ha).mpr ⟨t.whole, hread, by rw [Instant.toRfc3339_whole]⟩
    · intro a ha
      obtain ⟨write, hform⟩ := exists_dateForm ha
      exact ⟨write t, (hform.eq_ok_iff rfl).mpr ⟨t.whole, hread, (hform.whole t).symm⟩,
        (hform.eq_ok_iff rfl).mpr ⟨t, ht, rfl⟩⟩

/-- A date and time east of Greenwich, with a fraction of a second. -/
theorem dateIso_canonical_sample :
    standard.apply (.named "date.iso") (.text "2024-03-05T10:30:00.5+05:30") =
        .ok (.text "2024-03-05T05:00:00Z") ∧
      IsCanonicalDate (.text "2024-03-05T05:00:00Z") (.text "2024-03-05T10:30:00.5+05:30") := by
  have hread : instant (.text "2024-03-05T10:30:00.5+05:30") = .ok ⟨1709614800, 500000000⟩ := by
    decide
  have hiso : standard.apply (.named "date.iso") (.text "2024-03-05T10:30:00.5+05:30") =
      .ok (.text "2024-03-05T05:00:00Z") :=
    (dateIso_form.eq_ok_iff rfl).mpr ⟨_, hread, congrArg Json.text (by decide)⟩
  obtain ⟨t, ht, -, hcanonical⟩ := dateIso_canonical_iff rfl hiso
  rw [hread] at ht
  cases ht
  exact ⟨hiso, hcanonical.mpr ⟨by decide, by decide⟩⟩

/-- The first second of the year 10000 is written, and its text is not read. -/
theorem dateIso_unread :
    standard.apply (.named "date.iso") (.int 253402300800) =
        .ok (.text "+10000-01-01T00:00:00Z") ∧
      standard.apply (.named "date.iso") (.text "+10000-01-01T00:00:00Z") =
        .error (.invalid "date.iso" "'+10000-01-01T00:00:00Z' is not a recognised date") := by
  have hread : instant (.int 253402300800) = .ok ⟨253402300800, 0⟩ := by decide
  have hunread : instant (.text "+10000-01-01T00:00:00Z") =
      .error "'+10000-01-01T00:00:00Z' is not a recognised date" := by decide
  constructor
  · exact (dateIso_form.eq_ok_iff rfl).mpr ⟨_, hread, congrArg Json.text (by decide)⟩
  · rw [dateIso_form.apply_eq _ _ rfl, hunread]
    rfl

end Transform

end PingPost
