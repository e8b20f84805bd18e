import PingPost.Proofs.Binary64

/-!
Arithmetic of binary64 numbers.

Products and quotients are correctly rounded (`rounds_mul`, `rounds_div`): the result stands for a
number of the grid that is nearest to the exact one, cut off at the ends of the range. Scaling by a
positive factor therefore keeps the order of all numbers, infinities included (`KeepsOrder.mul`,
`KeepsOrder.div`).
-/

namespace PingPost.Binary64

open Float.Model hiding pack unpack
open Float.Model.UnpackedFloat

/-! ### Numbers and what they stand for -/

variable {x y : Float}

/-- The rational number that a binary64 number stands for; see `value`. -/
def exactValue (x : Float) : ℚ := value x.toModel.unpack

theorem exactValue_of_unpack {u : UnpackedFloat} (h : x.toModel.unpack = u) :
    exactValue x = value u := by
  rw [exactValue, h]

theorem canonical (x : Float) : Canonical x.toModel.unpack := canonical_unpack _

theorem isNaN_eq_false_iff : x.isNaN = false ↔ x.toModel.unpack ≠ .notANumber := by
  rw [← Bool.not_eq_true]
  exact not_congr isNaN_iff

theorem isNaN_of_isFinite (h : x.isFinite = true) : x.isNaN = false := by
  change x.toModel.unpack.isFinite = true at h
  rw [isNaN_eq_false_iff]
  rintro hnan
  rw [hnan] at h
  cases h

theorem isNaN_of_infinity {s : Sign} (h : x.toModel.unpack = .infinity s) : x.isNaN = false := by
  rw [isNaN_eq_false_iff, h]
  nofun

/-- A number is finite or an infinity. -/
theorem finite_or_infinity (h : x.isNaN = false) :
    x.isFinite = true ∨ ∃ s, x.toModel.unpack = .infinity s := by
  rw [isNaN_eq_false_iff] at h
  change x.toModel.unpack.isFinite = true ∨ _
  cases hx : x.toModel.unpack with
  | infinity s => exact .inr ⟨s, rfl⟩
  | notANumber => exact absurd hx h
  | zero | finite => exact .inl rfl

/-- The order of binary64 numbers is that of what they stand for. -/
theorem float_le_iff :
    x ≤ y ↔ x.isNaN = false ∧ y.isNaN = false ∧ exactValue x ≤ exactValue y := by
  rw [isNaN_eq_false_iff, isNaN_eq_false_iff, exactValue, exactValue,
    ← le_iff (canonical x) (canonical y)]
  change (decide (x.toModel.unpack.le y.toModel.unpack = true) = true) ↔ _
  exact decide_eq_true_iff

theorem float_lt_iff :
    x < y ↔ x.isNaN = false ∧ y.isNaN = false ∧ exactValue x < exactValue y := by
  rw [isNaN_eq_false_iff, isNaN_eq_false_iff, exactValue, exactValue,
    ← lt_iff (canonical x) (canonical y)]
  change (decide (x.toModel.unpack.lt y.toModel.unpack = true) = true) ↔ _
  exact decide_eq_true_iff

theorem float_le_refl (h : x.isNaN = false) : x ≤ x := float_le_iff.mpr ⟨h, h, le_rfl⟩

theorem float_le_trans {z : Float} (h : x ≤ y) (h' : y ≤ z) : x ≤ z := by
  obtain ⟨hx, -, hxy⟩ := float_le_iff.mp h
  obtain ⟨-, hz, hyz⟩ := float_le_iff.mp h'
  exact float_le_iff.mpr ⟨hx, hz, hxy.trans hyz⟩

theorem float_le_of_not_lt (hx : x.isNaN = false) (hy : y.isNaN = false) (h : ¬x < y) : y ≤ x :=
  float_le_iff.mpr ⟨hy, hx, not_lt.mp fun hlt => h (float_lt_iff.mpr ⟨hx, hy, hlt⟩)⟩

theorem float_not_lt (h : x ≤ y) : ¬y < x :=
  fun hlt => (float_le_iff.mp h).2.2.not_gt (float_lt_iff.mp hlt).2.2

theorem float_beq_of_eq (hx : x.isNaN = false) (hy : y.isNaN = false)
    (h : exactValue x = exactValue y) : (x == y) = true := by
  have hcompare : _ = some (compare (exactValue x) (exactValue y)) :=
    compare_eq_some (canonical x) (canonical y) (isNaN_eq_false_iff.mp hx)
      (isNaN_eq_false_iff.mp hy)
  change (x.toModel.unpack.compare y.toModel.unpack == some .eq) = true
  rw [hcompare, compare_eq_iff_eq.mpr h]
  rfl

/-- Only the two zeros stand for the same number. -/
theorem eq_or_zero (hx : x.isNaN = false) (hy : y.isNaN = false)
    (h : exactValue x = exactValue y) : x = y ∨ exactValue x = 0 := by
  obtain ⟨-, -, rfl | ⟨rfl, -⟩ | ⟨rfl, -⟩⟩ :=
    Float.beq_iff_ne_nan_and_eq.mp (float_beq_of_eq hx hy h)
  · exact .inl rfl
  · exact .inr (exactValue_of_unpack (u := .zero .positive) rfl)
  · exact .inr (exactValue_of_unpack (u := .zero .negative) rfl)

theorem exactValue_of_infinity {s : Sign} (h : x.toModel.unpack = .infinity s) :
    exactValue x = signum s * top :=
  exactValue_of_unpack h

theorem abs_exactValue_lt (h : x.isFinite = true) : |exactValue x| < top :=
  abs_value_lt (canonical x) h

theorem abs_exactValue_le (h : x.isNaN = false) : |exactValue x| ≤ top := by
  obtain hfinite | ⟨s, hs⟩ := finite_or_infinity h
  · exact (abs_exactValue_lt hfinite).le
  · rw [exactValue_of_infinity hs]
    cases s <;> simp [signum, abs_of_pos top_pos]

theorem zero_or_finite (h : x.isFinite = true) : (∃ s, x.toModel.unpack = .zero s) ∨
    ∃ s m e hm, x.toModel.unpack = .finite s m e hm := by
  change x.toModel.unpack.isFinite = true at h
  cases hx : x.toModel.unpack with
  | zero s => exact .inl ⟨s, rfl⟩
  | finite s m e hm => exact .inr ⟨s, m, e, hm, rfl⟩
  | infinity | notANumber =>
    rw [hx] at h
    cases h

theorem finite_of_pos (h : x.isFinite = true) (hpos : 0 < exactValue x) :
    ∃ m e hm, x.toModel.unpack = .finite .positive m e hm := by
  obtain ⟨s, hx⟩ | ⟨s, m, e, hm, hx⟩ := zero_or_finite h
  · rw [exactValue_of_unpack hx] at hpos
    exact absurd hpos (lt_irrefl 0)
  · cases s with
    | positive => exact ⟨m, e, hm, hx⟩
    | negative =>
      have : (0 : ℚ) < m * 2 ^ e := by positivity
      rw [exactValue_of_unpack hx, value_finite, signum] at hpos
      linarith

/-! ### Results of rounding -/

/-- A number cut off at the ends of the range. -/
def clamp (q : ℚ) : ℚ := max (-top) (min q top)

theorem clamp_mono {q q' : ℚ} (h : q ≤ q') : clamp q ≤ clamp q' := by
  unfold clamp
  gcongr

theorem clamp_of_abs_lt {q : ℚ} (h : |q| < top) : clamp q = q := by
  obtain ⟨hlow, hhigh⟩ := abs_lt.mp h
  rw [clamp, min_eq_left hhigh.le, max_eq_right hlow.le]

theorem clamp_zero : clamp 0 = 0 := clamp_of_abs_lt (by rw [abs_zero]; exact top_pos)

theorem clamp_of_top_le {q : ℚ} (h : top ≤ q) : clamp q = top := by
  rw [clamp, min_eq_right h, max_eq_right (by linarith [top_pos])]

theorem clamp_of_le_neg_top {q : ℚ} (h : q ≤ -top) : clamp q = -top := by
  rw [clamp, min_eq_left (by linarith [top_pos]), max_eq_left h]

/-- A binary64 number is what rounding gives for `q`. -/
structure Rounds (q : ℚ) (x : Float) : Prop where
  number : x.isNaN = false
  nearest : ∃ r, Nearest q r ∧ exactValue x = clamp r

section

variable {q r : ℚ} {s : Sign}

theorem unpack_ofModel_pack (u : UnpackedFloat) :
    (Float.ofModel (Float.Model.pack u)).toModel.unpack = unpack .binary64 (pack .binary64 u) :=
  rfl

theorem Rounds.of_unpack {u v : UnpackedFloat} (h : Nearest q r)
    (hunpack : unpack .binary64 (pack .binary64 u) = v) (hv : v ≠ .notANumber)
    (hvalue : value v = clamp r) : Rounds q (.ofModel (.pack u)) := by
  rw [← unpack_ofModel_pack] at hunpack
  refine ⟨?_, r, h, ?_⟩
  · rwa [isNaN_eq_false_iff, hunpack]
  · rwa [exactValue_of_unpack hunpack]

theorem Rounds.of_zero (h : Nearest q 0) : Rounds q (.ofModel (.pack (.zero s))) :=
  .of_unpack h unpack_packedZero nofun clamp_zero.symm

/-- Packing keeps a number that fits, or cuts it off. -/
theorem Rounds.of_finite {m : ℕ} {e : ℤ} {hpos : 0 < m} (hfits : Fits m e)
    (h : Nearest q (signum s * (m * 2 ^ e))) :
    Rounds q (.ofModel (.pack (.finite s m e hpos))) := by
  obtain hle | hlt := le_or_gt e 971
  · have hcanonical : Canonical (.finite s m e hpos) := ⟨hfits, hle⟩
    exact .of_unpack h (unpack_pack hfits hle) nofun
      (clamp_of_abs_lt (abs_value_lt hcanonical rfl)).symm
  · refine .of_unpack h (unpack_pack_of_large hlt) nofun ?_
    have htop := hfits.top_le hlt
    cases s <;> simp only [value_infinity, signum, neg_one_mul, one_mul]
    · exact (clamp_of_le_neg_top (neg_le_neg htop)).symm
    · exact (clamp_of_top_le htop).symm

/-- Away from the ends of the range the result is finite, and no number of the grid is nearer. -/
theorem Rounds.near {x : Float} {g : ℚ} (h : Rounds q x) (hg : Grid g)
    (hsmall : |q| + |q - g| < top) : x.isFinite = true ∧ |q - exactValue x| ≤ |q - g| := by
  obtain ⟨r, hr, hx⟩ := h.nearest
  have hnear := hr.least g hg
  have htri : |r| ≤ |q| + |q - r| := by
    rw [abs_sub_comm]
    linarith [abs_sub_abs_le_abs_sub r q]
  have hinside : |r| < top := by linarith
  rw [clamp_of_abs_lt hinside] at hx
  rw [hx]
  refine ⟨?_, hnear⟩
  obtain hfinite | ⟨s, hs⟩ := finite_or_infinity h.number
  · exact hfinite
  · rw [← hx, exactValue_of_infinity hs] at hinside
    cases s <;> simp [signum, abs_of_pos top_pos] at hinside

theorem rounds_roundWithAccuracy {m : ℕ} {e : ℤ} {acc : Accuracy} (hacc : Describes acc (q - m))
    (he : e ≤ Format.binary64.targetExponent (totalExponent m e)) :
    Rounds (signum s * (q * 2 ^ e))
      (.ofModel (.pack (roundWithAccuracy .binary64 s m e acc))) := by
  obtain ⟨m', e', hfits, hnearest, heq⟩ := roundWithAccuracy_spec (s := s) hacc he
  have hsigned := hnearest.signum_mul s
  rw [heq]
  split
  · rename_i hzero
    rw [hzero, Nat.cast_zero, zero_mul, mul_zero] at hsigned
    exact .of_zero hsigned
  · exact .of_finite hfits hsigned

end

/-! ### Products -/

/-- A product of numbers of which one has full length has full length, and a product of two short
ones is too small for that. -/
theorem le_targetExponent_mul {m m' : ℕ} {e e' : ℤ} (h : Fits m e) (h' : Fits m' e')
    (hpos : 0 < m) (hpos' : 0 < m') :
    e + e' ≤ Format.binary64.targetExponent (totalExponent (m * m') (e + e')) := by
  rw [targetExponent_eq]
  by_cases hfull : 2 ^ 52 ≤ m * m'
  · have : 52 ≤ (m * m').log2 := (Nat.le_log2 (by positivity)).mpr hfull
    omega
  · have he := h.full.resolve_right fun hm => hfull (hm.trans (Nat.le_mul_of_pos_right m hpos'))
    have he' := h'.full.resolve_right fun hm => hfull (hm.trans (Nat.le_mul_of_pos_left m' hpos))
    omega

theorem mul_eq (x y : Float) :
    x * y = .ofModel (.pack (UnpackedFloat.mul .binary64 x.toModel.unpack y.toModel.unpack)) :=
  rfl

/-- **Multiplication is correctly rounded.** -/
theorem rounds_mul (hx : x.isFinite = true) (hy : y.isFinite = true) :
    Rounds (exactValue x * exactValue y) (x * y) := by
  have hxc := canonical x
  have hyc := canonical y
  rw [mul_eq]
  obtain ⟨s, hx⟩ | ⟨s, m, e, hm, hx⟩ := zero_or_finite hx <;>
    obtain ⟨s', hy⟩ | ⟨s', m', e', hm', hy⟩ := zero_or_finite hy <;>
    rw [hx] at hxc <;> rw [hy] at hyc <;>
    rw [exactValue_of_unpack hx, exactValue_of_unpack hy, hx, hy]
  · rw [value_zero, zero_mul]
    exact .of_zero .zero
  · rw [value_zero, zero_mul]
    exact .of_zero .zero
  · rw [value_zero, mul_zero]
    exact .of_zero .zero
  · have hvalue : value (.finite s m e hm) * value (.finite s' m' e' hm') =
        signum (s * s') * (m * m' * 2 ^ (e + e')) := by
      rw [signum_mul, zpow_add₀ two_ne_zero, value_finite, value_finite]
      ring
    rw [hvalue]
    exact rounds_roundWithAccuracy (by simp [Describes])
      (le_targetExponent_mul hxc.1 hyc.1 hm hm')

/-! ### Quotients -/

theorem targetExponent_quotient (m m' : ℕ) (e e' : ℤ) :
    Format.binary64.targetExponent (totalExponent m e - totalExponent m' e') =
      max (m.log2 + e - (m'.log2 + e') - 53) (-1074) := by
  simp only [Format.targetExponent, totalExponent, Format.mantissaBits, Format.minExponent]
  omega

/-- Division shifts far enough for the quotient to have full length. -/
theorem le_targetExponent_div {m m' n : ℕ} {t : ℤ} (hpos : 0 < m) (hpos' : 0 < m')
    (h : t ≤ -1074 ∨ m'.log2 + 53 ≤ m.log2 + n) :
    t ≤ Format.binary64.targetExponent (totalExponent ((m <<< n) / m') t) := by
  rw [targetExponent_eq]
  by_cases ht : t ≤ -1074
  · omega
  have hlog := h.resolve_left ht
  have hfull : 2 ^ 52 ≤ (m <<< n) / m' := by
    rw [Nat.le_div_iff_mul_le hpos', Nat.shiftLeft_eq]
    calc 2 ^ 52 * m' ≤ 2 ^ 52 * 2 ^ (m'.log2 + 1) := by gcongr; exact Nat.lt_log2_self.le
      _ = 2 ^ (m'.log2 + 53) := by rw [← pow_add]; congr 1; omega
      _ ≤ 2 ^ (m.log2 + n) := Nat.pow_le_pow_right two_pos hlog
      _ = 2 ^ m.log2 * 2 ^ n := pow_add _ _ _
      _ ≤ m * 2 ^ n := by gcongr; exact Nat.log2_self_le hpos.ne'
  have : 52 ≤ ((m <<< n) / m').log2 := (Nat.le_log2 (by positivity)).mpr hfull
  omega

theorem describes_quotient (a : ℕ) {b : ℕ} (hb : 0 < b) :
    Describes (accuracyOfFraction (a % b) b) ((a / b : ℚ) - (a / b : ℕ)) := by
  have hsplit : (a : ℚ) / b - (a / b : ℕ) = (a % b : ℕ) / b := by
    have : (a : ℚ) = b * (a / b : ℕ) + (a % b : ℕ) := by exact_mod_cast (Nat.div_add_mod a b).symm
    have hb : (b : ℚ) ≠ 0 := by exact_mod_cast hb.ne'
    field_simp
    linarith
  rw [hsplit]
  exact describes_accuracyOfFraction (Nat.mod_lt _ hb)

/-- The quotient of two numbers that are not zero. -/
theorem rounds_div_finite {s s' : Sign} {m m' : ℕ} {e e' : ℤ} {hm : 0 < m} {hm' : 0 < m'} :
    Rounds (value (.finite s m e hm) / value (.finite s' m' e' hm'))
      (.ofModel
        (.pack (UnpackedFloat.div .binary64 (.finite s m e hm) (.finite s' m' e' hm')))) := by
  set t := min (e - e') (Format.binary64.targetExponent
    (totalExponent m e - totalExponent m' e')) with ht
  rw [targetExponent_quotient] at ht
  obtain ⟨n, hn⟩ := Int.le.dest (show t ≤ e - e' by omega)
  have hshift : (e - e' - t).toNat = n := by omega
  have hdiv : UnpackedFloat.div .binary64 (.finite s m e hm) (.finite s' m' e' hm') =
      roundWithAccuracy .binary64 (s / s') ((m <<< n) / m') t
        (accuracyOfFraction ((m <<< n) % m') m') := by
    rw [← hshift]
    rfl
  have hvalue : value (.finite s m e hm) / value (.finite s' m' e' hm') =
      signum (s / s') * ((m <<< n : ℕ) / m' * 2 ^ t) := by
    have he : e = e' + (t + n) := by omega
    rw [signum_div, value_finite, value_finite, mul_div_mul_comm, Nat.shiftLeft_eq, he,
      zpow_add₀ two_ne_zero, zpow_add₀ two_ne_zero, zpow_natCast]
    push_cast
    field_simp
  -- Nothing is lost before the rounding: the shift by `n` is in the exponent `t`, and the rest of
  -- the division is in the accuracy.
  rw [hvalue, hdiv]
  exact rounds_roundWithAccuracy (describes_quotient (m <<< n) hm')
    (le_targetExponent_div hm hm' (by omega))

theorem div_eq (x y : Float) :
    x / y = .ofModel (.pack (UnpackedFloat.div .binary64 x.toModel.unpack y.toModel.unpack)) :=
  rfl

/-- **Division is correctly rounded.** -/
theorem rounds_div (hx : x.isFinite = true) (hy : y.isFinite = true) (hne : exactValue y ≠ 0) :
    Rounds (exactValue x / exactValue y) (x / y) := by
  rw [div_eq]
  obtain ⟨s', hy⟩ | ⟨s', m', e', hm', hy⟩ := zero_or_finite hy
  · exact absurd (exactValue_of_unpack hy) hne
  obtain ⟨s, hx⟩ | ⟨s, m, e, hm, hx⟩ := zero_or_finite hx <;>
    rw [exactValue_of_unpack hx, exactValue_of_unpack hy, hx, hy]
  · rw [value_zero, zero_div]
    exact .of_zero .zero
  · exact rounds_div_finite

/-! ### Functions that keep the order -/

/-- A function that leaves infinities alone and keeps the order of the finite numbers. -/
structure KeepsOrder (f : Float → Float) : Prop where
  number : ∀ x, x.isFinite = true → (f x).isNaN = false
  infinity : ∀ x s, x.toModel.unpack = .infinity s → (f x).toModel.unpack = .infinity s
  finite : ∀ x y, x.isFinite = true → y.isFinite = true → exactValue x ≤ exactValue y →
    exactValue (f x) ≤ exactValue (f y)

namespace KeepsOrder

variable {f : Float → Float}

theorem isNaN (h : KeepsOrder f) (hx : x.isNaN = false) : (f x).isNaN = false := by
  obtain hfinite | ⟨s, hs⟩ := finite_or_infinity hx
  · exact h.number x hfinite
  · exact isNaN_of_infinity (h.infinity x s hs)

/-- Such a function keeps the order of all numbers, as the infinities are at the ends. -/
theorem le (h : KeepsOrder f) (hxy : x ≤ y) : f x ≤ f y := by
  obtain ⟨hx, hy, hle⟩ := float_le_iff.mp hxy
  refine float_le_iff.mpr ⟨h.isNaN hx, h.isNaN hy, ?_⟩
  have hbelow := neg_le_of_abs_le (abs_exactValue_le (h.isNaN hy))
  have habove := le_of_abs_le (abs_exactValue_le (h.isNaN hx))
  have htop := top_pos
  obtain hx' | ⟨s, hs⟩ := finite_or_infinity hx <;>
    obtain hy' | ⟨s', hs'⟩ := finite_or_infinity hy
  · exact h.finite x y hx' hy' hle
  · have hlow := (abs_lt.mp (abs_exactValue_lt hx')).1
    rw [exactValue_of_infinity hs'] at hle
    rw [exactValue_of_infinity (h.infinity y s' hs')]
    cases s' <;> simp only [signum] at hle ⊢ <;> linarith
  · have hhigh := (abs_lt.mp (abs_exactValue_lt hy')).2
    rw [exactValue_of_infinity hs] at hle
    rw [exactValue_of_infinity (h.infinity x s hs)]
    cases s <;> simp only [signum] at hle ⊢ <;> linarith
  · rw [exactValue_of_infinity hs, exactValue_of_infinity hs'] at hle
    rwa [exactValue_of_infinity (h.infinity x s hs), exactValue_of_infinity (h.infinity y s' hs')]

/-- Scaling by a positive factor, rounded. Of two numbers that are the same it makes the same,
whichever way it breaks ties. -/
theorem of_rounds {k : ℚ} (hk : 0 < k)
    (hrounds : ∀ x, x.isFinite = true → Rounds (exactValue x * k) (f x))
    (hinfinity : ∀ x s, x.toModel.unpack = .infinity s → (f x).toModel.unpack = .infinity s) :
    KeepsOrder f := by
  refine ⟨fun x hx => (hrounds x hx).number, hinfinity, fun x y hx hy hle => ?_⟩
  obtain ⟨r, hr, hfx⟩ := (hrounds x hx).nearest
  obtain ⟨r', hr', hfy⟩ := (hrounds y hy).nearest
  obtain hlt | heq := hle.lt_or_eq
  · rw [hfx, hfy]
    exact clamp_mono (hr.le_of_lt hr' (mul_lt_mul_of_pos_right hlt hk))
  obtain rfl | hzero := eq_or_zero (isNaN_of_isFinite hx) (isNaN_of_isFinite hy) heq
  · exact le_rfl
  · rw [← heq, hzero, zero_mul] at hr'
    rw [hzero, zero_mul] at hr
    rw [hfx, hfy, hr.eq_of_grid Nearest.zero.grid, hr'.eq_of_grid Nearest.zero.grid]

variable {c : Float}

theorem mul (hc : c.isFinite = true) (hpos : 0 < exactValue c) : KeepsOrder fun x => x * c := by
  refine .of_rounds hpos (fun x hx => rounds_mul hx hc) fun x s hx => ?_
  obtain ⟨m, e, hm, hunpack⟩ := finite_of_pos hc hpos
  rw [mul_eq, hx, hunpack, ← unpack_pack_infinity s]
  cases s <;> rfl

theorem div (hc : c.isFinite = true) (hpos : 0 < exactValue c) : KeepsOrder fun x => x / c := by
  refine .of_rounds (inv_pos.mpr hpos) (fun x hx => rounds_div hx hc hpos.ne') fun x s hx => ?_
  obtain ⟨m, e, hm, hunpack⟩ := finite_of_pos hc hpos
  rw [div_eq, hx, hunpack, ← unpack_pack_infinity s]
  cases s <;> rfl

end KeepsOrder

end PingPost.Binary64
