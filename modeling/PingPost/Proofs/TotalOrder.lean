import PingPost.Proofs.Rounding

/-!
The total order of binary64 words.

Numbers stand by their values, negative zero before zero. What is not a number stands outermost,
before all numbers if its sign bit is set and behind them if not, and with a greater payload further
out (`Float64.Below`). The order is read off the bits: `Float64.Word.orderKey` is the magnitude
without the sign, counted downwards from minus one where the sign bit is set
(`Float64.Word.orderKey_lt_iff`).
-/

namespace PingPost

/-- The total order of all binary64 words, including those that cannot be compared by value. -/
inductive Float64.Below : Word → Word → Prop
  | less {v w : Word} : v.toFloat < w.toFloat → Below v w
  | zero : Below (.ofFloat (-0)) (.ofFloat 0)
  /-- What is not a number stands before the numbers if its sign bit is set, else behind them. -/
  | first {v w : Word} : v.isNaN = true → v.isNegative = true → w.isNaN = false → Below v w
  | last {v w : Word} : v.isNaN = false → w.isNaN = true → w.isNegative = false → Below v w
  | apart {v w : Word} : v.isNaN = true → v.isNegative = true → w.isNaN = true →
    w.isNegative = false → Below v w
  /-- On either side the greater payload is further out. -/
  | outwards {v w : Word} : v.isNaN = true → v.isNegative = true → w.isNaN = true →
    w.isNegative = true → w.payload < v.payload → Below v w
  | inwards {v w : Word} : v.isNaN = true → v.isNegative = false → w.isNaN = true →
    w.isNegative = false → v.payload < w.payload → Below v w

namespace Dyadic

/-- The number without its sign. -/
def magnitude (d : Dyadic) : ℚ := d.mantissa * 2 ^ d.exponent

theorem magnitude_nonneg (d : Dyadic) : 0 ≤ d.magnitude := by
  unfold magnitude
  positivity

theorem value_eq (d : Dyadic) : d.value = if d.negative then -d.magnitude else d.magnitude := by
  rw [value, ← magnitude]
  split
  · rw [neg_one_mul]
  · rw [one_mul]

theorem fits_ofBits (bits : ℕ) : Binary64.Fits (ofBits bits).mantissa (ofBits bits).exponent := by
  refine ⟨mantissa_ofBits_lt bits, ?_, ?_⟩
  · simp only [ofBits]
    split <;> omega
  · simp only [ofBits]
    split <;> omega

/-- Without their signs, numbers are ordered as their bits. -/
theorem magnitude_mono {a b : ℕ} (h : a % 2 ^ 63 ≤ b % 2 ^ 63) :
    (ofBits a).magnitude ≤ (ofBits b).magnitude := by
  have hexponent : (ofBits a).exponent ≤ (ofBits b).exponent := by
    simp only [ofBits]
    split <;> split <;> omega
  rcases hexponent.lt_or_eq with hlt | heq
  · exact ((fits_ofBits a).lt_of_exponent_lt (fits_ofBits b) hlt).le
  · have hmantissa : (ofBits a).mantissa ≤ (ofBits b).mantissa := by
      simp only [ofBits] at heq ⊢
      split_ifs at heq ⊢ <;> omega
    unfold magnitude
    rw [heq]
    gcongr

end Dyadic

namespace Float64

open Binary64

variable {x : Float} {v w : Word}

/-! ### Numbers and their bits -/

theorem ofModel_pack_unpack (x : Float) : .ofModel (.pack x.toModel.unpack) = x := by
  apply Float.toBits_inj.mp
  apply UInt64.toBitVec_inj.mp
  exact Float.Model.UnpackedFloat.pack_unpack_of_valid x.toModel.valid

/-- The bits of the infinities continue the magnitudes. -/
theorem ofFloat_infinity (s : Float.Model.UnpackedFloat.Sign) :
    Dyadic.ofFloat (.ofModel (.pack (.infinity s))) = ⟨s matches .negative, 2 ^ 52, 972⟩ := by
  cases s <;> decide

theorem exactValue_eq_of_number (h : x.isNaN = false) :
    exactValue x = (Dyadic.ofFloat x).value := by
  rcases finite_or_infinity h with hfinite | ⟨s, hs⟩
  · exact exactValue_eq hfinite
  · have hx : x = .ofModel (.pack (.infinity s)) := by rw [← hs, ofModel_pack_unpack]
    rw [exactValue_of_infinity hs, hx, ofFloat_infinity, Dyadic.value, top_eq, Nat.cast_pow,
      Nat.cast_ofNat]
    cases s with
    | negative => rfl
    | positive => rfl

namespace Word

theorem eq_of_toNat_eq (h : v.bits.toNat = w.bits.toNat) : v = w := by
  cases v
  cases w
  cases UInt64.toNat_inj.mp h
  rfl

theorem isNegative_iff : w.isNegative = true ↔ w.bits.toNat / 2 ^ 63 = 1 := decide_eq_true_iff

theorem isNaN_iff_fields :
    w.isNaN = true ↔ w.bits.toNat / 2 ^ 52 % 2 ^ 11 = 2047 ∧ w.bits.toNat % 2 ^ 52 ≠ 0 :=
  decide_eq_true_iff

/-- The bits of NaNs continue the magnitudes behind the infinities. -/
theorem isNaN_iff : w.isNaN = true ↔ 2047 * 2 ^ 52 < w.bits.toNat % 2 ^ 63 := by
  rw [isNaN_iff_fields]
  omega

theorem isNaN_iff_unpack : w.isNaN = true ↔
    Float.Model.UnpackedFloat.unpack .binary64 w.bits.toBitVec = .notANumber := by
  rw [isNaN_iff_fields, unpack_eq_notANumber_iff]
  rfl

theorem valid_of_number (h : w.isNaN = false) :
    Float.Model.Format.binary64.Valid w.bits.toBitVec where
  eq_packedNaN hexponent hmantissa := by
    have hexponent := congrArg BitVec.toNat hexponent
    have hmantissa := mt BitVec.eq_of_toNat_eq hmantissa
    rw [toNat_unpackExponent] at hexponent
    rw [toNat_unpackMantissa] at hmantissa
    have hnan : w.isNaN = true := decide_eq_true ⟨hexponent, hmantissa⟩
    cases h.symm.trans hnan

/-- A number keeps its bits. -/
theorem toBits_toFloat (h : w.isNaN = false) : w.toFloat.toBits = w.bits :=
  congrArg Float.toBits (Float.ofBits_toBits ⟨⟨w.bits, valid_of_number h⟩⟩)

theorem isNaN_toFloat (w : Word) : w.toFloat.isNaN = w.isNaN := by
  rw [Bool.eq_iff_iff, isNaN_iff_unpack, ← unpack_ofBits]
  exact Float.Model.UnpackedFloat.isNaN_iff

theorem toFloat_inj (hv : v.isNaN = false) (hw : w.isNaN = false) (h : v.toFloat = w.toFloat) :
    v = w := by
  apply eq_of_toNat_eq
  rw [← toBits_toFloat hv, ← toBits_toFloat hw, h]

theorem exactValue_toFloat (h : w.isNaN = false) :
    exactValue w.toFloat = (Dyadic.ofBits w.bits.toNat).value := by
  rw [exactValue_eq_of_number (w.isNaN_toFloat.trans h), ← toBits_toFloat h]
  rfl

/-! ### The key -/

theorem orderKey_of_negative (h : w.bits.toNat / 2 ^ 63 = 1) :
    w.orderKey = -((w.bits.toNat % 2 ^ 63 : ℕ) : ℤ) - 1 :=
  if_pos (isNegative_iff.mpr h)

theorem orderKey_of_positive (h : w.bits.toNat / 2 ^ 63 = 0) :
    w.orderKey = ((w.bits.toNat % 2 ^ 63 : ℕ) : ℤ) := by
  have hsign : ¬w.isNegative = true := by
    rw [isNegative_iff]
    omega
  have hbits := w.bits.toNat_lt
  rw [Nat.mod_eq_of_lt (by omega)]
  exact if_neg hsign

/-- The sign bit is set or not. -/
theorem sign_cases (w : Word) :
    w.bits.toNat / 2 ^ 63 = 1 ∧ w.orderKey = -((w.bits.toNat % 2 ^ 63 : ℕ) : ℤ) - 1 ∨
      w.bits.toNat / 2 ^ 63 = 0 ∧ w.orderKey = ((w.bits.toNat % 2 ^ 63 : ℕ) : ℤ) := by
  have hbits := w.bits.toNat_lt
  rcases (by omega : w.bits.toNat / 2 ^ 63 = 1 ∨ w.bits.toNat / 2 ^ 63 = 0) with h | h
  · exact .inl ⟨h, orderKey_of_negative h⟩
  · exact .inr ⟨h, orderKey_of_positive h⟩

theorem orderKey_inj (h : v.orderKey = w.orderKey) : v = w := by
  have hv := v.sign_cases
  have hw := w.sign_cases
  apply eq_of_toNat_eq
  omega

/-- The key keeps the order of the values. -/
theorem value_mono (h : v.orderKey ≤ w.orderKey) :
    (Dyadic.ofBits v.bits.toNat).value ≤ (Dyadic.ofBits w.bits.toNat).value := by
  have hv := (Dyadic.ofBits v.bits.toNat).magnitude_nonneg
  have hw := (Dyadic.ofBits w.bits.toNat).magnitude_nonneg
  have hmono (a b : Word) (hab : a.bits.toNat % 2 ^ 63 ≤ b.bits.toNat % 2 ^ 63) :
      (Dyadic.ofBits a.bits.toNat).magnitude ≤ (Dyadic.ofBits b.bits.toNat).magnitude :=
    Dyadic.magnitude_mono hab
  have hsign (a : Word) :
      (Dyadic.ofBits a.bits.toNat).negative = true ↔ a.bits.toNat / 2 ^ 63 = 1 :=
    decide_eq_true_iff
  simp only [Dyadic.value_eq, hsign]
  rcases v.sign_cases with ⟨hneg, hkey⟩ | ⟨hneg, hkey⟩ <;>
    rcases w.sign_cases with ⟨hneg', hkey'⟩ | ⟨hneg', hkey'⟩ <;>
    rw [hkey, hkey'] at h
  · rw [if_pos hneg, if_pos hneg']
    exact neg_le_neg (hmono w v (by omega))
  · rw [if_pos hneg, if_neg (by omega)]
    linarith
  · omega
  · rw [if_neg (by omega), if_neg (by omega)]
    exact hmono v w (by omega)

theorem orderKey_lt_of_below (h : Below v w) : v.orderKey < w.orderKey := by
  cases h with
  | less hlt =>
    obtain ⟨hv, hw, hlt⟩ := float_lt_iff.mp hlt
    rw [isNaN_toFloat] at hv hw
    rw [exactValue_toFloat hv, exactValue_toFloat hw] at hlt
    by_contra hle
    exact hlt.not_ge (value_mono (not_lt.mp hle))
  | zero => decide
  | first | last | apart | outwards | inwards =>
    have hv := v.sign_cases
    have hw := w.sign_cases
    simp only [payload, ← Bool.not_eq_true, isNaN_iff, isNegative_iff, Nat.pow_eq] at *
    omega

/-- Two numbers are told apart by their values, the zeros by their signs. -/
theorem below_trichotomy_of_number (hv : v.isNaN = false) (hw : w.isNaN = false) :
    Below v w ∨ v = w ∨ Below w v := by
  have hx : v.toFloat.isNaN = false := v.isNaN_toFloat.trans hv
  have hy : w.toFloat.isNaN = false := w.isNaN_toFloat.trans hw
  have hzero : (⟨(0 : Float).toBits⟩ : Word) = .ofFloat 0 := by decide
  have hzero' : (⟨(-0 : Float).toBits⟩ : Word) = .ofFloat (-0) := by decide
  have hof (u : Word) (h : u.isNaN = false) : u = ⟨u.toFloat.toBits⟩ := by
    rw [toBits_toFloat h]
  rcases lt_trichotomy (exactValue v.toFloat) (exactValue w.toFloat) with hlt | heq | hgt
  · exact .inl (.less (float_lt_iff.mpr ⟨hx, hy, hlt⟩))
  · have hbeq := float_beq_of_eq hx hy heq
    obtain ⟨-, -, h | ⟨h, h'⟩ | ⟨h, h'⟩⟩ := Float.beq_iff_ne_nan_and_eq.mp hbeq
    · exact .inr (.inl (toFloat_inj hv hw h))
    · rw [hof v hv, hof w hw, h, h', hzero, hzero']
      exact .inr (.inr .zero)
    · rw [hof v hv, hof w hw, h, h', hzero, hzero']
      exact .inl .zero
  · exact .inr (.inr (.less (float_lt_iff.mpr ⟨hy, hx, hgt⟩)))

/-- Two NaNs are told apart by their signs and payloads. -/
theorem below_trichotomy_of_nan (hv : v.isNaN = true) (hw : w.isNaN = true) :
    Below v w ∨ v = w ∨ Below w v := by
  have heq (hsign : v.isNegative = w.isNegative) (hpayload : v.payload = w.payload) : v = w := by
    have hv := isNaN_iff_fields.mp hv
    have hw := isNaN_iff_fields.mp hw
    have hbits := v.bits.toNat_lt
    have hbits' := w.bits.toNat_lt
    rw [Bool.eq_iff_iff, isNegative_iff, isNegative_iff] at hsign
    simp only [payload, Nat.pow_eq] at hpayload
    apply eq_of_toNat_eq
    omega
  cases hn : v.isNegative with
  | false =>
    cases hn' : w.isNegative with
    | false =>
      rcases lt_trichotomy v.payload w.payload with h | h | h
      · exact .inl (.inwards hv hn hw hn' h)
      · exact .inr (.inl (heq (hn.trans hn'.symm) h))
      · exact .inr (.inr (.inwards hw hn' hv hn h))
    | true => exact .inr (.inr (.apart hw hn' hv hn))
  | true =>
    cases hn' : w.isNegative with
    | false => exact .inl (.apart hv hn hw hn')
    | true =>
      rcases lt_trichotomy v.payload w.payload with h | h | h
      · exact .inr (.inr (.outwards hw hn' hv hn h))
      · exact .inr (.inl (heq (hn.trans hn'.symm) h))
      · exact .inl (.outwards hv hn hw hn' h)

/-- Any two words are told apart. -/
theorem below_trichotomy (v w : Word) : Below v w ∨ v = w ∨ Below w v := by
  cases hv : v.isNaN with
  | false =>
    cases hw : w.isNaN with
    | false => exact below_trichotomy_of_number hv hw
    | true =>
      cases hn : w.isNegative with
      | false => exact .inl (.last hv hw hn)
      | true => exact .inr (.inr (.first hw hn hv))
  | true =>
    cases hw : w.isNaN with
    | false =>
      cases hn : v.isNegative with
      | false => exact .inr (.inr (.last hw hv hn))
      | true => exact .inl (.first hv hn hw)
    | true => exact below_trichotomy_of_nan hv hw

/-- **The key orders all binary64 words by their total order.** -/
theorem orderKey_lt_iff : v.orderKey < w.orderKey ↔ Below v w := by
  refine ⟨fun hlt => ?_, orderKey_lt_of_below⟩
  rcases below_trichotomy v w with h | rfl | h
  · exact h
  · exact absurd hlt (lt_irrefl _)
  · exact absurd hlt (orderKey_lt_of_below h).not_gt

end Word

end Float64

end PingPost
