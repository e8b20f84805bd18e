import PingPost.Proofs.Grid

/-!
Binary64 numbers taken apart.

`Float.Model.UnpackedFloat` splits a number into a sign, a mantissa and an exponent. Its rounding
shifts a mantissa to the right while two residual bits keep what is needed of the bits that are
lost; with them it reaches a number of the grid that is nearest to the exact one
(`roundWithAccuracy_spec`). What fits is packed and unpacked without change (`unpack_pack`), and is
ordered by the rational number it stands for (`le_iff`).
-/

namespace PingPost.Binary64

open Float.Model hiding pack unpack
open Float.Model.UnpackedFloat

/-! ### Shifting -/

/-- What an accuracy says of the part of a number after its integer part. -/
def Describes : Accuracy → ℚ → Prop
  | .exact, r => r = 0
  | .inexact .lt, r => 0 < r ∧ r < 1 / 2
  | .inexact .eq, r => r = 1 / 2
  | .inexact .gt, r => 1 / 2 < r ∧ r < 1

/-- A mantissa with its residual bits stands for a number. -/
def Stands (em : ExtendedMantissa) (q : ℚ) : Prop := Describes em.accuracy (q - em.mantissa)

theorem Describes.nonneg {acc : Accuracy} {r : ℚ} (h : Describes acc r) : 0 ≤ r := by
  rcases acc with _ | (_ | _ | _) <;> simp only [Describes] at h <;> linarith

theorem stands_of_describes {m : ℕ} {acc : Accuracy} {q : ℚ} (h : Describes acc (q - m)) :
    Stands (.ofMantissaAndAccuracy m acc) q := by
  rcases acc with _ | (_ | _ | _) <;> exact h

namespace Stands

variable {em : ExtendedMantissa} {q : ℚ}

theorem le (h : Stands em q) : em.mantissa ≤ q := sub_nonneg.mp (Describes.nonneg h)

/-- A shift halves the number. The last bit of the mantissa becomes the round bit, and the sticky
bit keeps whether anything is left below. -/
theorem shiftRightOne (h : Stands em q) : Stands em.shiftRightOne (q / 2) := by
  obtain ⟨m, round, sticky⟩ := em
  obtain ⟨k, rfl | rfl⟩ := Nat.even_or_odd' m
  all_goals
    have hdiv : (2 * k) / 2 = k := by omega
    have hdiv' : (2 * k + 1) / 2 = k := by omega
    cases round <;> cases sticky <;>
      simp [Stands, ExtendedMantissa.shiftRightOne, ExtendedMantissa.accuracy, Describes, hdiv,
        hdiv', Nat.add_mod] at h ⊢ <;>
      first | linarith | (constructor <;> linarith)

theorem shiftRight (h : Stands em q) (n : ℕ) : Stands (em >>> n) (q / 2 ^ n) := by
  induction n with
  | zero => rwa [pow_zero, div_one]
  | succ n ih =>
    have : Stands (em >>> n).shiftRightOne (q / 2 ^ n / 2) := ih.shiftRightOne
    rwa [div_div, ← pow_succ] at this

/-- Rounding goes to an integer next to the number. -/
theorem roundedMantissa (h : Stands em q) : |q - em.roundedMantissa| ≤ 1 / 2 := by
  obtain ⟨m, round, sticky⟩ := em
  cases round <;> cases sticky <;>
    simp only [Stands, ExtendedMantissa.accuracy, Describes] at h <;>
    simp only [ExtendedMantissa.roundedMantissa, ExtendedMantissa.accuracy,
      Accuracy.roundToNearestEven]
  · rw [h]; norm_num
  · rw [abs_le]; constructor <;> linarith
  · obtain h' | h' := Nat.mod_two_eq_zero_or_one m <;> rw [h', abs_le] <;> push_cast <;>
      constructor <;> linarith
  · rw [abs_le]; push_cast; constructor <;> linarith

end Stands

theorem describes_accuracyOfFraction {a b : ℕ} (hab : a < b) :
    Describes (accuracyOfFraction a b) (a / b) := by
  have hb : (0 : ℚ) < b := by exact_mod_cast (Nat.zero_le a).trans_lt hab
  unfold accuracyOfFraction
  split
  · simp_all [Describes]
  · rename_i ha
    have ha : (0 : ℚ) < a := by exact_mod_cast Nat.pos_of_ne_zero ha
    have hab : (a : ℚ) < b := by exact_mod_cast hab
    rcases hc : compare (2 * a) b with _ | _ | _
    · have : (2 * a : ℚ) < b := by exact_mod_cast compare_lt_iff_lt.mp hc
      exact ⟨by positivity, by rw [div_lt_div_iff₀ hb two_pos]; linarith⟩
    · have : (2 * a : ℚ) = b := by exact_mod_cast compare_eq_iff_eq.mp hc
      simp only [Describes]
      rw [div_eq_div_iff hb.ne' two_ne_zero]
      linarith
    · have : (b : ℚ) < 2 * a := by exact_mod_cast compare_gt_iff_gt.mp hc
      refine ⟨?_, (div_lt_one hb).mpr hab⟩
      rw [div_lt_div_iff₀ two_pos hb]
      linarith

/-! ### Rounding -/

/-- A mantissa and an exponent as the numbers of the format have them, but for the upper end of the
exponents. -/
structure Fits (m : ℕ) (e : ℤ) : Prop where
  mantissa : m < 2 ^ 53
  exponent : -1074 ≤ e
  full : e = -1074 ∨ 2 ^ 52 ≤ m

/-- The exponent at which a number fits. -/
theorem targetExponent_eq (m : ℕ) (e : ℤ) :
    Format.binary64.targetExponent (totalExponent m e) = max (m.log2 + e - 52) (-1074) := by
  simp only [Format.targetExponent, totalExponent, Format.mantissaBits, Format.minExponent]
  omega

theorem log2_le_of_lt {m k : ℕ} (h : m < 2 ^ (k + 1)) : m.log2 ≤ k := by
  by_cases hm : m = 0
  · simp [hm]
  · exact Nat.le_of_lt_succ ((Nat.log2_lt hm).mpr h)

theorem Fits.targetExponent {m : ℕ} {e : ℤ} (h : Fits m e) :
    Format.binary64.targetExponent (totalExponent m e) ≤ e := by
  have := log2_le_of_lt h.mantissa
  have := h.exponent
  rw [targetExponent_eq]
  omega

theorem shift_eq {m n : ℕ} {e : ℤ} {acc : Accuracy}
    (hn : (Format.binary64.targetExponent (totalExponent m e) - e).toNat = n) :
    shiftToTargetExponent .binary64 m e acc =
      (ExtendedMantissa.ofMantissaAndAccuracy m acc >>> n, e + n) := by
  subst hn
  rfl

theorem Fits.shift {m : ℕ} {e : ℤ} (h : Fits m e) :
    shiftToTargetExponent .binary64 m e .exact = (⟨m, false, false⟩, e) := by
  have hn : (Format.binary64.targetExponent (totalExponent m e) - e).toNat = 0 :=
    Int.toNat_of_nonpos (by linarith [h.targetExponent])
  rw [shift_eq hn, Int.natCast_zero, add_zero]
  rfl

/-- A mantissa that rounding made too long by a bit. -/
theorem shift_carry {e : ℤ} (he : -1074 ≤ e) :
    shiftToTargetExponent .binary64 (2 ^ 53) e .exact = (⟨2 ^ 52, false, false⟩, e + 1) := by
  have hn : (Format.binary64.targetExponent (totalExponent (2 ^ 53) e) - e).toNat = 1 := by
    rw [targetExponent_eq, Nat.log2_two_pow]
    omega
  rw [shift_eq hn]
  rfl

theorem mantissa_shiftRight (em : ExtendedMantissa) (n : ℕ) :
    (em >>> n).mantissa = em.mantissa / 2 ^ n := by
  induction n with
  | zero => rw [pow_zero, Nat.div_one]; rfl
  | succ n ih =>
    have : (em >>> (n + 1)).mantissa = (em >>> n).mantissa / 2 := rfl
    rw [this, ih, Nat.div_div_eq_div_mul, pow_succ]

theorem mantissa_ofMantissaAndAccuracy (m : ℕ) (acc : Accuracy) :
    (ExtendedMantissa.ofMantissaAndAccuracy m acc).mantissa = m := by
  rcases acc with _ | (_ | _ | _) <;> rfl

/-- A mantissa fits once it is shifted to the target exponent. -/
theorem fits_shifted {m n : ℕ} {e : ℤ}
    (hn : e + n = Format.binary64.targetExponent (totalExponent m e)) :
    Fits (m / 2 ^ n) (e + n) := by
  rw [targetExponent_eq] at hn
  refine ⟨?_, by omega, ?_⟩
  · have hm : m < 2 ^ (m.log2 + 1) := Nat.lt_log2_self
    refine Nat.div_lt_of_lt_mul (hm.trans_le ?_)
    rw [← pow_add]
    exact Nat.pow_le_pow_right two_pos (by omega)
  · by_cases hmin : e + n = -1074
    · exact .inl hmin
    · have hlog : m.log2 = n + 52 := by omega
      have hm : m ≠ 0 := by
        rintro rfl
        simp at hlog
      refine .inr ((Nat.le_div_iff_mul_le (by positivity)).mpr ?_)
      rw [← pow_add, add_comm, ← hlog]
      exact Nat.log2_self_le hm

theorem roundedMantissa_bounds (em : ExtendedMantissa) :
    em.mantissa ≤ em.roundedMantissa ∧ em.roundedMantissa ≤ em.mantissa + 1 := by
  obtain ⟨m, round, sticky⟩ := em
  cases round <;> cases sticky <;>
    simp only [ExtendedMantissa.roundedMantissa, ExtendedMantissa.accuracy,
      Accuracy.roundToNearestEven] <;> omega

/-- **Rounding is correct**: the result has the given sign, fits, and is nearest to the number that
the mantissa, the exponent and the accuracy describe. -/
theorem roundWithAccuracy_spec {s : Sign} {m : ℕ} {e : ℤ} {acc : Accuracy} {q : ℚ}
    (hacc : Describes acc (q - m)) (he : e ≤ Format.binary64.targetExponent (totalExponent m e)) :
    ∃ m' e', Fits m' e' ∧ Nearest (q * 2 ^ e) (m' * 2 ^ e') ∧
      roundWithAccuracy .binary64 s m e acc =
        if h : m' = 0 then .zero s else .finite s m' e' (Nat.pos_of_ne_zero h) := by
  obtain ⟨n, hn⟩ := Int.le.dest he
  have hshift : shiftToTargetExponent .binary64 m e acc =
      (ExtendedMantissa.ofMantissaAndAccuracy m acc >>> n, e + n) := shift_eq (by omega)
  have hstands : Stands (ExtendedMantissa.ofMantissaAndAccuracy m acc >>> n) (q / 2 ^ n) :=
    (stands_of_describes hacc).shiftRight n
  have hfits : Fits (ExtendedMantissa.ofMantissaAndAccuracy m acc >>> n).mantissa (e + n) := by
    rw [mantissa_shiftRight, mantissa_ofMantissaAndAccuracy]
    exact fits_shifted hn
  unfold roundWithAccuracy
  rw [hshift]
  dsimp only
  generalize ExtendedMantissa.ofMantissaAndAccuracy m acc >>> n = em at *
  have hbounds := roundedMantissa_bounds em
  have hnearest : Nearest (q * 2 ^ e) (em.roundedMantissa * 2 ^ (e + n)) := by
    have hscaled : q * 2 ^ e / 2 ^ (e + n) = q / 2 ^ n := by
      rw [zpow_add₀ two_ne_zero, zpow_natCast, mul_comm q, mul_div_mul_left _ _ (by positivity)]
    refine .of_half (by have := hfits.mantissa; omega) hfits.exponent ?_ ?_
    · rw [hscaled]
      exact hstands.roundedMantissa
    · rw [hscaled]
      refine hfits.full.imp_right fun hfull => ?_
      exact (show (2 ^ 52 : ℚ) ≤ em.mantissa by exact_mod_cast hfull).trans hstands.le
  -- Rounding up can make the mantissa too long by one bit, and then only to `2 ^ 53`.
  obtain hlt | heq := Nat.lt_or_eq_of_le (show em.roundedMantissa ≤ 2 ^ 53 by
    have := hfits.mantissa; omega)
  · have hfits' : Fits em.roundedMantissa (e + n) :=
      ⟨hlt, hfits.exponent, hfits.full.imp_right fun h => h.trans hbounds.1⟩
    refine ⟨_, _, hfits', hnearest, ?_⟩
    rw [hfits'.shift]
  · have hcarry : ((2 ^ 52 : ℕ) : ℚ) * 2 ^ (e + n + 1) = em.roundedMantissa * 2 ^ (e + n) := by
      rw [heq, zpow_add_one₀ two_ne_zero]
      push_cast
      ring
    have hexponent := hfits.exponent
    refine ⟨2 ^ 52, e + n + 1, ⟨by norm_num, by omega, .inr le_rfl⟩, ?_, ?_⟩
    · rwa [hcarry]
    · rw [heq, shift_carry hexponent]

/-! ### Packing -/

/-- Numbers as the format has them. -/
def Canonical : UnpackedFloat → Prop
  | .finite _ m e _ => Fits m e ∧ e ≤ 971
  | _ => True

theorem toNat_one_append (b : BitVec 52) : (1#1 ++ b).toNat = 2 ^ 52 + b.toNat := by
  rw [BitVec.toNat_append, ← Nat.shiftLeft_add_eq_or_of_lt b.isLt]
  rfl

theorem canonical_unpack (b : BitVec Format.binary64.numBits) :
    Canonical (unpack .binary64 b) := by
  fun_cases unpack .binary64 b with
  | case1 | case2 | case3 => trivial
  | case4 mantissa exponent e _ _ _ hexponent =>
    have hlt : mantissa.toNat < 2 ^ 52 := mantissa.isLt
    have he : e = -1075 := by
      simp [e, hexponent, Format.exponentBias]
    exact ⟨⟨by omega, by omega, .inl (by omega)⟩, by omega⟩
  | case5 mantissa exponent e _ _ htop hexponent =>
    have hlt : mantissa.toNat < 2 ^ 52 := mantissa.isLt
    have hm : (1#1 ++ mantissa).toNat = 2 ^ 52 + mantissa.toNat := toNat_one_append mantissa
    have hlow : exponent.toNat ≠ 0 := fun h => hexponent (BitVec.eq_of_toNat_eq h)
    have hhigh : exponent.toNat ≠ 2047 := fun h => htop (BitVec.eq_of_toNat_eq h)
    have hlt' : exponent.toNat < 2048 := exponent.isLt
    have he : e = exponent.toNat - 1075 := by
      simp [e, Format.exponentBias]
    refine ⟨⟨by omega, by omega, .inr (by omega)⟩, by omega⟩

theorem unpack_pack_infinity (s : Sign) :
    unpack .binary64 (pack .binary64 (.infinity s)) = .infinity s := by
  simp [pack, packedInfinity, unpack]

theorem unpack_pack_of_large {s : Sign} {m : ℕ} {e : ℤ} {hpos : 0 < m} (he : 972 ≤ e) :
    unpack .binary64 (pack .binary64 (.finite s m e hpos)) = .infinity s := by
  rw [← unpack_pack_infinity]
  congr 1
  have hbiased : 2 ^ 11 ≤ (e + 1023 + 52).toNat + 1 := by omega
  unfold UnpackedFloat.pack
  exact if_pos hbiased

theorem finite_congr {s : Sign} {m m' : ℕ} {e e' : ℤ} {hpos : 0 < m} {hpos' : 0 < m'}
    (hm : m = m') (he : e = e') :
    UnpackedFloat.finite s m e hpos = UnpackedFloat.finite s m' e' hpos' := by
  subst hm he
  rfl

section

variable {s : Sign} {exponent : BitVec 11} {mantissa : BitVec 52}

theorem unpack_components_of_full (hlow : exponent ≠ 0#_) (hhigh : exponent ≠ -1#_) :
    unpack .binary64 (packComponents .binary64 s exponent mantissa) =
      .finite s (2 ^ 52 + mantissa.toNat) (exponent.toNat - 1075) (by omega) := by
  simp only [unpack, unpackExponent_packComponents, unpackMantissa_packComponents,
    unpackSign_packComponents, Sign.ofBitVec_toBitVec]
  exact (if_neg hhigh).trans ((if_neg hlow).trans (finite_congr (toNat_one_append _) rfl))

theorem unpack_components_of_short (hpos : 0 < mantissa.toNat) :
    unpack .binary64 (packComponents .binary64 s 0#_ mantissa) =
      .finite s mantissa.toNat (-1074) hpos := by
  have hne : mantissa ≠ 0#_ := by
    rintro rfl
    exact absurd hpos (by decide)
  simp only [unpack, unpackExponent_packComponents, unpackMantissa_packComponents,
    unpackSign_packComponents, Sign.ofBitVec_toBitVec]
  refine (if_neg (by decide)).trans ((if_pos trivial).trans ?_)
  exact (dif_neg hne).trans (finite_congr rfl rfl)

end

/-- A number of full length loses its leading bit when it is packed, and gets it back. -/
theorem unpack_pack_of_full {s : Sign} {m : ℕ} {e : ℤ} {hpos : 0 < m} (hm : m < 2 ^ 53)
    (hfull : 2 ^ 52 ≤ m) (he : -1074 ≤ e) (he' : e ≤ 971) :
    unpack .binary64 (pack .binary64 (.finite s m e hpos)) = .finite s m e hpos := by
  have hlog : m.log2 = 52 := (Nat.log2_eq_iff hpos.ne').mpr ⟨hfull, hm⟩
  have hbiased : ¬2 ^ 11 ≤ (e + 1023 + 52).toNat + 1 := by omega
  have hpack : pack .binary64 (.finite s m e hpos) =
      packComponents .binary64 s (BitVec.ofNat _ (e + 1023 + 52).toNat) (BitVec.ofNat _ m) := by
    unfold UnpackedFloat.pack
    exact (if_neg hbiased).trans (if_pos (by rw [hlog]; rfl))
  have hexponent : (BitVec.ofNat 11 (e + 1023 + 52).toNat).toNat = (e + 1023 + 52).toNat := by
    rw [BitVec.toNat_ofNat, Nat.mod_eq_of_lt (by omega)]
  have hmantissa : (BitVec.ofNat 52 m).toNat = m - 2 ^ 52 := by
    rw [BitVec.toNat_ofNat]
    omega
  -- The biased exponent lies strictly between those of the short numbers and of the infinities.
  rw [hpack, unpack_components_of_full]
  · refine finite_congr ?_ ?_
    · rw [hmantissa]
      omega
    · rw [hexponent]
      omega
  · intro h
    have := congrArg BitVec.toNat h
    rw [hexponent] at this
    change _ = 0 at this
    omega
  · intro h
    have := congrArg BitVec.toNat h
    rw [hexponent] at this
    change _ = 2047 at this
    omega

theorem unpack_pack_of_short {s : Sign} {m : ℕ} {hpos : 0 < m} (hm : m < 2 ^ 52) :
    unpack .binary64 (pack .binary64 (.finite s m (-1074) hpos)) = .finite s m (-1074) hpos := by
  have hlog : m.log2 < 52 := (Nat.log2_lt hpos.ne').mpr hm
  have hpack : pack .binary64 (.finite s m (-1074) hpos) =
      packComponents .binary64 s 0#_ (BitVec.ofNat _ m) := by
    have hshort : ¬m.log2 + 1 = Format.mantissaBits .binary64 := by
      change ¬m.log2 + 1 = 53
      omega
    unfold UnpackedFloat.pack
    exact (if_neg (by decide)).trans (if_neg hshort)
  have hmantissa : (BitVec.ofNat 52 m).toNat = m := by
    rw [BitVec.toNat_ofNat, Nat.mod_eq_of_lt hm]
  rw [hpack, unpack_components_of_short (by rwa [hmantissa])]
  exact finite_congr hmantissa rfl

theorem unpack_pack {s : Sign} {m : ℕ} {e : ℤ} {hpos : 0 < m} (hfits : Fits m e)
    (he : e ≤ 971) :
    unpack .binary64 (pack .binary64 (.finite s m e hpos)) = .finite s m e hpos := by
  obtain hlt | hge := Nat.lt_or_ge m (2 ^ 52)
  · obtain rfl := hfits.full.resolve_right (by omega)
    exact unpack_pack_of_short hlt
  · exact unpack_pack_of_full hfits.mantissa hge hfits.exponent he

/-! ### Order -/

/-- The factor of a sign. -/
def signum : Sign → ℚ
  | .negative => -1
  | .positive => 1

theorem signum_mul (s s' : Sign) : signum (s * s') = signum s * signum s' := by
  cases s <;> cases s'
  · exact (by norm_num : (1 : ℚ) = -1 * -1)
  · exact (by norm_num : (-1 : ℚ) = -1 * 1)
  · exact (by norm_num : (-1 : ℚ) = 1 * -1)
  · exact (by norm_num : (1 : ℚ) = 1 * 1)

theorem signum_div (s s' : Sign) : signum (s / s') = signum s / signum s' := by
  cases s <;> cases s'
  · exact (by norm_num : (1 : ℚ) = -1 / -1)
  · exact (by norm_num : (-1 : ℚ) = -1 / 1)
  · exact (by norm_num : (-1 : ℚ) = 1 / -1)
  · exact (by norm_num : (1 : ℚ) = 1 / 1)

theorem Nearest.signum_mul {q r : ℚ} (h : Nearest q r) (s : Sign) :
    Nearest (signum s * q) (signum s * r) := by
  cases s <;> simp only [signum, neg_one_mul, one_mul]
  exacts [h.neg, h]

/-- The first power of two past the range. -/
def top : ℚ := 2 ^ 1024

theorem top_pos : 0 < top := by
  unfold top
  positivity

theorem top_eq : top = 2 ^ 52 * 2 ^ (972 : ℤ) := by
  rw [top, ← zpow_natCast, ← zpow_natCast, ← zpow_add₀ two_ne_zero]
  rfl

/-- The number that an unpacked number stands for. An infinity counts as the first power of two past
the range, and what is not a number as zero. -/
def value : UnpackedFloat → ℚ
  | .finite s m e _ => signum s * (m * 2 ^ e)
  | .infinity s => signum s * top
  | _ => 0

section

variable {m m' : ℕ} {e e' : ℤ}

/-- A number with a greater exponent is greater, since its mantissa has full length. -/
theorem Fits.lt_of_exponent_lt (h : Fits m e) (h' : Fits m' e') (hlt : e < e') :
    (m * 2 ^ e : ℚ) < m' * 2 ^ e' := by
  have hm : (m : ℚ) < 2 ^ 53 := by exact_mod_cast h.mantissa
  have hm' : (2 : ℚ) ^ 52 ≤ m' := by
    exact_mod_cast h'.full.resolve_left (by have := h.exponent; omega)
  have he : (2 : ℚ) ^ (e + 1) ≤ 2 ^ e' := zpow_le_zpow_right₀ (by norm_num) (by omega)
  calc (m * 2 ^ e : ℚ) < 2 ^ 53 * 2 ^ e := by gcongr
    _ = 2 ^ 52 * 2 ^ (e + 1) := by rw [zpow_add_one₀ two_ne_zero]; ring
    _ ≤ m' * 2 ^ e' := by gcongr

theorem Fits.compare_eq (h : Fits m e) (h' : Fits m' e') :
    (compare e e').then (compare m m') = compare (m * 2 ^ e : ℚ) (m' * 2 ^ e') := by
  obtain hlt | rfl | hgt := lt_trichotomy e e'
  · rw [compare_lt_iff_lt.mpr hlt, compare_lt_iff_lt.mpr (h.lt_of_exponent_lt h' hlt)]
    rfl
  · have hpos : (0 : ℚ) < 2 ^ e := by positivity
    rw [compare_eq_iff_eq.mpr rfl]
    obtain hlt | rfl | hgt := lt_trichotomy m m'
    · have : (m * 2 ^ e : ℚ) < m' * 2 ^ e := by gcongr
      rw [compare_lt_iff_lt.mpr hlt, compare_lt_iff_lt.mpr this]
      rfl
    · rw [compare_eq_iff_eq.mpr rfl, compare_eq_iff_eq.mpr rfl]
      rfl
    · have : (m' * 2 ^ e : ℚ) < m * 2 ^ e := by gcongr
      rw [compare_gt_iff_gt.mpr hgt, compare_gt_iff_gt.mpr this]
      rfl
  · rw [compare_gt_iff_gt.mpr hgt, compare_gt_iff_gt.mpr (h'.lt_of_exponent_lt h hgt)]
    rfl

theorem Fits.lt_top (h : Fits m e) (he : e ≤ 971) : (m * 2 ^ e : ℚ) < top := by
  have hm : (m : ℚ) < 2 ^ 53 := by exact_mod_cast h.mantissa
  have he : (2 : ℚ) ^ e ≤ 2 ^ (971 : ℤ) := zpow_le_zpow_right₀ (by norm_num) he
  calc (m * 2 ^ e : ℚ) < 2 ^ 53 * 2 ^ e := by gcongr
    _ ≤ 2 ^ 53 * 2 ^ (971 : ℤ) := by gcongr
    _ = top := by rw [← zpow_natCast, ← zpow_add₀ two_ne_zero, top, ← zpow_natCast]; rfl

theorem Fits.top_le (h : Fits m e) (he : 972 ≤ e) : top ≤ m * 2 ^ e := by
  have hm : (2 : ℚ) ^ 52 ≤ m := by exact_mod_cast h.full.resolve_left (by omega)
  have he : (2 : ℚ) ^ (972 : ℤ) ≤ 2 ^ e := zpow_le_zpow_right₀ (by norm_num) he
  calc top = 2 ^ 52 * 2 ^ (972 : ℤ) := top_eq
    _ ≤ m * 2 ^ e := by gcongr

end

theorem abs_value_lt {a : UnpackedFloat} (ha : Canonical a) (hfinite : a.isFinite = true) :
    |value a| < top := by
  cases a with
  | infinity | notANumber => cases hfinite
  | zero s => simpa [value] using top_pos
  | finite s m e hpos =>
    have hnonneg : (0 : ℚ) ≤ m * 2 ^ e := by positivity
    cases s <;> simpa [value, signum, abs_of_nonneg hnonneg] using ha.1.lt_top ha.2

theorem value_infinity (s : Sign) : value (.infinity s) = signum s * top := rfl

theorem value_zero (s : Sign) : value (.zero s) = 0 := rfl

theorem value_finite {s : Sign} {m : ℕ} {e : ℤ} {hpos : 0 < m} :
    value (.finite s m e hpos) = signum s * (m * 2 ^ e) :=
  rfl

/-- Numbers are compared by what they stand for. -/
theorem compare_eq_some {a b : UnpackedFloat} (ha : Canonical a) (hb : Canonical b)
    (ha' : a ≠ .notANumber) (hb' : b ≠ .notANumber) :
    a.compare b = some (compare (value a) (value b)) := by
  have htop := top_pos
  have hinside {a : UnpackedFloat} (ha : Canonical a) (ha' : a ≠ .notANumber)
      (hinf : ∀ s, a = .infinity s → False) : -top < value a ∧ value a < top := by
    refine abs_lt.mp (abs_value_lt ha ?_)
    cases a <;> first | rfl | exact absurd rfl ha' | exact (hinf _ rfl).elim
  have hpos (m : ℕ) (e : ℤ) (h : 0 < m) : (0 : ℚ) < m * 2 ^ e := by positivity
  have hlt {p q : ℚ} (h : p < q) : some Ordering.lt = some (compare p q) :=
    congrArg some (compare_lt_iff_lt.mpr h).symm
  have hgt {p q : ℚ} (h : q < p) : some Ordering.gt = some (compare p q) :=
    congrArg some (compare_gt_iff_gt.mpr h).symm
  have heq {p q : ℚ} (h : p = q) : some Ordering.eq = some (compare p q) :=
    congrArg some (compare_eq_iff_eq.mpr h).symm
  fun_cases UnpackedFloat.compare a b
  case case1 => exact absurd rfl ha'
  case case2 => exact absurd rfl hb'
  all_goals simp only [value_infinity, value_zero, value_finite, signum, neg_one_mul, one_mul]
  case case3 s s' =>
    cases s <;> cases s'
    · exact heq rfl
    · exact hlt (by linarith)
    · exact hgt (by linarith)
    · exact heq rfl
  case case4 h => exact hgt (hinside hb hb' h).2
  case case5 h => exact hlt (hinside hb hb' h).1
  case case6 h => exact hlt (hinside ha ha' h).2
  case case7 h => exact hgt (hinside ha ha' h).1
  case case8 m e h s => exact hgt (hpos m e h)
  case case9 m e h s => exact hlt (by linarith [hpos m e h])
  case case10 s m e h => exact hlt (hpos m e h)
  case case11 s m e h => exact hgt (by linarith [hpos m e h])
  case case12 => exact heq rfl
  -- Of two negative numbers the one with the smaller magnitude is the greater.
  case case13 m e h m' e' h' =>
    rw [ha.1.compare_eq hb.1]
    obtain h | h | h := lt_trichotomy (m * 2 ^ e : ℚ) (m' * 2 ^ e')
    · rw [compare_lt_iff_lt.mpr h]
      exact hgt (neg_lt_neg h)
    · rw [compare_eq_iff_eq.mpr h]
      exact heq (congrArg _ h)
    · rw [compare_gt_iff_gt.mpr h]
      exact hlt (neg_lt_neg h)
  case case14 m e h m' e' h' => exact hlt (by linarith [hpos m e h, hpos m' e' h'])
  case case15 m e h m' e' h' => exact hgt (by linarith [hpos m e h, hpos m' e' h'])
  case case16 m e h m' e' h' => rw [ha.1.compare_eq hb.1]

section

variable {a b : UnpackedFloat}

theorem compare_eq_none (h : a = .notANumber ∨ b = .notANumber) : a.compare b = none := by
  obtain rfl | rfl := h
  · rfl
  · cases a <;> rfl

theorem le_iff (ha : Canonical a) (hb : Canonical b) :
    a.le b = true ↔ a ≠ .notANumber ∧ b ≠ .notANumber ∧ value a ≤ value b := by
  by_cases hnan : a = .notANumber ∨ b = .notANumber
  · rw [UnpackedFloat.le, compare_eq_none hnan]
    exact iff_of_false nofun fun ⟨ha', hb', _⟩ => hnan.elim ha' hb'
  · obtain ⟨ha', hb'⟩ := not_or.mp hnan
    rw [UnpackedFloat.le, compare_eq_some ha hb ha' hb', Option.any_some, ← compare_le_iff_le]
    simp only [ha', hb', ne_eq, not_false_eq_true, true_and, Ordering.isLE_iff_ne_gt]

theorem lt_iff (ha : Canonical a) (hb : Canonical b) :
    a.lt b = true ↔ a ≠ .notANumber ∧ b ≠ .notANumber ∧ value a < value b := by
  by_cases hnan : a = .notANumber ∨ b = .notANumber
  · rw [UnpackedFloat.lt, compare_eq_none hnan]
    exact iff_of_false nofun fun ⟨ha', hb', _⟩ => hnan.elim ha' hb'
  · obtain ⟨ha', hb'⟩ := not_or.mp hnan
    rw [UnpackedFloat.lt, compare_eq_some ha hb ha' hb', ← compare_lt_iff_lt]
    simp only [ha', hb', ne_eq, not_false_eq_true, true_and, beq_iff_eq, Option.some.injEq]

end

end PingPost.Binary64
