import PingPost.Decimal.Binary
import PingPost.Proofs.Arithmetic

/-!
Rounding of a binary64 number to an integer.

`Float64.round` reads a number off its bits, rounds on natural numbers, and puts the integer
together from bits again. Reading agrees with unpacking (`exactValue_eq`) and an integer of no more
than 53 bits is put together exactly (`ofRatio_spec`), so the result is the nearest integer without
error (`round_spec`).
-/

namespace PingPost

open Float.Model hiding pack unpack
open Float.Model.UnpackedFloat

/-! ### Exact values -/

namespace Dyadic

/-- The number that a sign, a mantissa and an exponent stand for. -/
def value (d : Dyadic) : ℚ := (if d.negative then -1 else 1) * (d.mantissa * 2 ^ d.exponent)

/-- The exact value of a finite number, read off its bits. -/
def ofBits (bits : ℕ) : Dyadic where
  negative := bits / 2 ^ 63 = 1
  mantissa := if bits / 2 ^ 52 % 2 ^ 11 = 0 then bits % 2 ^ 52 else 2 ^ 52 + bits % 2 ^ 52
  exponent :=
    if bits / 2 ^ 52 % 2 ^ 11 = 0 then -1074 else ((bits / 2 ^ 52 % 2 ^ 11 : ℕ) : ℤ) - 1075

theorem num_div_den (d : Dyadic) : (d.num : ℚ) / d.den = d.mantissa * 2 ^ d.exponent := by
  obtain ⟨k, hk⟩ | ⟨k, hk⟩ : (∃ k : ℕ, d.exponent = k) ∨ ∃ k : ℕ, d.exponent = -k := by
    obtain h | h := le_total 0 d.exponent
    · exact .inl ⟨_, Int.eq_natAbs_of_nonneg h⟩
    · exact .inr ⟨d.exponent.natAbs, by omega⟩
  · have hk' : (-(k : ℤ)).toNat = 0 := by omega
    rw [num, den, hk, Int.toNat_natCast, hk', zpow_natCast]
    simp
  · have hk' : (-(k : ℤ)).toNat = 0 := by omega
    rw [num, den, hk, neg_neg, Int.toNat_natCast, hk', zpow_neg, zpow_natCast]
    simp [div_eq_mul_inv]

theorem den_pos (d : Dyadic) : 0 < d.den := Nat.pow_pos two_pos

/-- Half of a unit is added before the integer part is taken. -/
theorem roundMagnitude_eq (d : Dyadic) :
    d.roundMagnitude = ⌊(d.mantissa * 2 ^ d.exponent + 1 / 2 : ℚ)⌋₊ := by
  have hden : (d.den : ℚ) ≠ 0 := by exact_mod_cast d.den_pos.ne'
  rw [← num_div_den, roundMagnitude, ← Nat.floor_div_eq_div (K := ℚ)]
  congr 1
  push_cast
  field_simp

theorem mantissa_ofBits_lt (bits : ℕ) : (ofBits bits).mantissa < 2 ^ 53 := by
  simp only [ofBits]
  split <;> omega

theorem roundMagnitude_of_isInteger {d : Dyadic} (h : d.isInteger = true) :
    (d.roundMagnitude : ℚ) = d.mantissa * 2 ^ d.exponent := by
  have hpos := d.den_pos
  obtain ⟨k, hk⟩ : d.den ∣ d.num := Nat.dvd_of_mod_eq_zero (of_decide_eq_true h)
  have hround : d.roundMagnitude = k := by
    rw [roundMagnitude, hk]
    exact Nat.div_eq_of_lt_le (by linarith) (by linarith)
  have hden : (d.den : ℚ) ≠ 0 := by exact_mod_cast hpos.ne'
  rw [hround, ← num_div_den, hk, Nat.cast_mul, mul_div_cancel_left₀ _ hden]

/-- A number that is not an integer is far from the upper end of the mantissas. -/
theorem roundMagnitude_lt {d : Dyadic} (hm : d.mantissa < 2 ^ 53) (h : d.isInteger = false) :
    d.roundMagnitude < 2 ^ 53 := by
  have hexponent : d.exponent < 0 := by
    by_contra! hnonneg
    have : (-d.exponent).toNat = 0 := by omega
    simp [isInteger, den, this, Nat.mod_one] at h
  have hnum : d.num = d.mantissa := by
    have : d.exponent.toNat = 0 := by omega
    rw [num, this]
    simp
  have hpos := d.den_pos
  rw [roundMagnitude, hnum]
  exact Nat.div_lt_of_lt_mul (by omega)

end Dyadic

/-- The integer nearest to a number; a half goes away from zero. -/
def away (q : ℚ) : ℚ := if q < 0 then -⌊-q + 1 / 2⌋₊ else ⌊q + 1 / 2⌋₊

theorem away_mono {q q' : ℚ} (h : q ≤ q') : away q ≤ away q' := by
  unfold away
  split <;> split
  · gcongr
  · have : (0 : ℚ) ≤ ⌊-q + 1 / 2⌋₊ := Nat.cast_nonneg _
    have : (0 : ℚ) ≤ ⌊q' + 1 / 2⌋₊ := Nat.cast_nonneg _
    linarith
  · linarith
  · gcongr

theorem away_signed {q : ℚ} (negative : Bool) (h : 0 ≤ q) :
    away ((if negative then -1 else 1) * q) = (if negative then -1 else 1) * ⌊q + 1 / 2⌋₊ := by
  cases negative <;> simp only [Bool.false_eq_true, if_true, if_false, one_mul, neg_one_mul]
  · rw [away, if_neg h.not_gt]
  · obtain rfl | hpos := h.eq_or_lt
    · norm_num [away]
    · rw [away, if_pos (neg_lt_zero.mpr hpos), neg_neg]

theorem away_of_near {q : ℚ} {k : ℤ} (h : |q - k| < 1 / 2) : away q = k := by
  obtain ⟨hlow, hhigh⟩ := abs_lt.mp h
  unfold away
  split
  · have hk : k ≤ 0 := by
      by_contra! hpos
      have : (1 : ℚ) ≤ k := by exact_mod_cast hpos
      linarith
    obtain ⟨n, rfl⟩ := Int.exists_eq_neg_ofNat hk
    push_cast at *
    have hfloor : ⌊-q + 1 / 2⌋₊ = n :=
      (Nat.floor_eq_iff (by linarith)).mpr ⟨by linarith, by linarith⟩
    rw [hfloor]
  · have hk : 0 ≤ k := by
      by_contra! hneg
      have : (k : ℚ) ≤ -1 := by exact_mod_cast Int.le_sub_one_of_lt hneg
      linarith
    obtain ⟨n, rfl⟩ := Int.eq_ofNat_of_zero_le hk
    push_cast at *
    have hfloor : ⌊q + 1 / 2⌋₊ = n :=
      (Nat.floor_eq_iff (by linarith)).mpr ⟨by linarith, by linarith⟩
    rw [hfloor]

namespace Binary64

/-! ### Reading bits -/

section

variable (b : BitVec Format.binary64.numBits)

theorem toNat_unpackMantissa :
    (unpackMantissa b).toNat = b.toNat % 2 ^ 52 := by
  rw [unpackMantissa_def, BitVec.extractLsb'_toNat, Nat.shiftRight_zero]

theorem toNat_unpackExponent :
    (unpackExponent b).toNat = b.toNat / 2 ^ 52 % 2 ^ 11 := by
  rw [unpackExponent_def, BitVec.extractLsb'_toNat, Nat.shiftRight_eq_div_pow]

theorem signum_unpackSign : signum (Sign.ofBitVec (unpackSign b)) =
    if b.toNat / 2 ^ 63 = 1 then -1 else 1 := by
  have hsign : (unpackSign b).toNat = b.toNat / 2 ^ 63 := by
    rw [unpackSign_def, BitVec.extractLsb'_toNat, Nat.shiftRight_eq_div_pow]
    change b.toNat / 2 ^ 63 % 2 ^ 1 = _
    have : b.toNat < 2 ^ 64 := b.isLt
    omega
  have hbits (sign : BitVec 1) : signum (Sign.ofBitVec sign) =
      if sign.toNat = 1 then -1 else 1 := by
    revert sign
    decide
  rw [← hsign]
  exact hbits _

theorem unpackExponent_eq_top_iff :
    unpackExponent b = -1#_ ↔ b.toNat / 2 ^ 52 % 2 ^ 11 = 2047 := by
  rw [← toNat_unpackExponent]
  exact ⟨fun h => congrArg BitVec.toNat h, fun h => BitVec.eq_of_toNat_eq h⟩

/-- Exactly the infinities and NaNs have the greatest scale. -/
theorem isFinite_unpack_iff : (unpack .binary64 b).isFinite = true ↔
    b.toNat / 2 ^ 52 % 2 ^ 11 ≠ 2047 := by
  rw [ne_eq, ← unpackExponent_eq_top_iff]
  fun_cases unpack .binary64 b with
  | case1 _ _ _ _ h => exact iff_of_false nofun (not_not_intro h)
  | case2 _ _ h => exact iff_of_false nofun (not_not_intro h)
  | case3 _ exponent _ _ h h' => exact iff_of_true rfl h
  | case4 _ exponent _ _ _ _ h =>
    refine iff_of_true rfl fun h' => ?_
    exact absurd (h.symm.trans h') (by decide)
  | case5 _ exponent _ _ _ h h' => exact iff_of_true rfl h

/-- Exactly the NaNs have the greatest scale and a mantissa. -/
theorem unpack_eq_notANumber_iff : unpack .binary64 b = .notANumber ↔
    b.toNat / 2 ^ 52 % 2 ^ 11 = 2047 ∧ b.toNat % 2 ^ 52 ≠ 0 := by
  have hzero : unpackMantissa b = 0#_ ↔ b.toNat % 2 ^ 52 = 0 := by
    rw [← toNat_unpackMantissa]
    exact ⟨fun h => congrArg BitVec.toNat h, fun h => BitVec.eq_of_toNat_eq h⟩
  rw [ne_eq, ← unpackExponent_eq_top_iff, ← hzero]
  fun_cases unpack .binary64 b with
  | case1 _ _ _ _ _ hmantissa => exact iff_of_false nofun fun h => h.2 hmantissa
  | case2 _ _ hexponent hmantissa => exact iff_of_true rfl ⟨hexponent, hmantissa⟩
  | case3 _ _ _ _ hexponent => exact iff_of_false nofun fun h => hexponent h.1
  | case4 _ _ _ _ _ hexponent => exact iff_of_false nofun fun h => hexponent h.1
  | case5 _ _ _ _ _ hexponent => exact iff_of_false nofun fun h => hexponent h.1

/-- Unpacking reads the bits as the exact value does. -/
theorem value_unpack : (unpack .binary64 b).isFinite = true →
    value (unpack .binary64 b) = (Dyadic.ofBits b.toNat).value := by
  have hlow : unpackExponent b = 0#_ ↔ b.toNat / 2 ^ 52 % 2 ^ 11 = 0 := by
    rw [← toNat_unpackExponent]
    exact ⟨fun h => congrArg BitVec.toNat h, fun h => BitVec.eq_of_toNat_eq h⟩
  simp only [Dyadic.value, Dyadic.ofBits, decide_eq_true_eq, ← signum_unpackSign]
  fun_cases unpack .binary64 b with
  | case1 | case2 => nofun
  | case3 _ _ _ _ _ hexponent hmantissa =>
    have hzero : b.toNat % 2 ^ 52 = 0 := by
      rw [← toNat_unpackMantissa]
      exact congrArg BitVec.toNat hmantissa
    intro _
    simp only [value, if_pos (hlow.mp hexponent), hzero]
    simp
  | case4 mantissa exponent e _ sign _ hexponent =>
    have he : e + 1 = -1074 := by
      simp [e, hexponent, Format.exponentBias]
    have hm : mantissa.toNat = b.toNat % 2 ^ 52 := toNat_unpackMantissa b
    intro _
    rw [value_finite, if_pos (hlow.mp hexponent), if_pos (hlow.mp hexponent), he, hm]
  | case5 mantissa exponent e _ sign _ hexponent =>
    have he : e = (b.toNat / 2 ^ 52 % 2 ^ 11 : ℕ) - 1075 := by
      rw [← toNat_unpackExponent]
      rfl
    have hm : (1#1 ++ mantissa).toNat = 2 ^ 52 + b.toNat % 2 ^ 52 := by
      rw [← toNat_unpackMantissa]
      exact toNat_one_append mantissa
    intro _
    rw [value_finite, if_neg (hlow.not.mp hexponent), if_neg (hlow.not.mp hexponent), he, hm]

end

theorem exactValue_eq {x : Float} (h : x.isFinite = true) :
    exactValue x = (Dyadic.ofFloat x).value :=
  value_unpack _ h

/-! ### Writing bits -/

theorem unpack_ofBits (u : UInt64) :
    (Float.ofBits u).toModel.unpack = unpack .binary64 u.toBitVec := by
  have h := canonical_unpack u.toBitVec
  change unpack .binary64 (pack .binary64 (unpack .binary64 u.toBitVec)) = _
  cases hu : unpack .binary64 u.toBitVec with
  | infinity s => exact unpack_pack_infinity s
  | notANumber => exact unpack_packedNaN
  | zero s => exact unpack_packedZero
  | finite s m e hpos =>
    rw [hu] at h
    exact unpack_pack h.1 h.2

/-- A result of arithmetic is kept as it is. -/
@[simp] theorem toFloat_ofFloat (x : Float) : (Float64.Word.ofFloat x).toFloat = x := by
  unfold Float64.Word.ofFloat
  split
  · rename_i hnan
    rw [Float.isNaN_eq_decide_eq_nan, decide_eq_true_iff] at hnan
    rw [hnan]
    decide
  · exact Float.ofBits_toBits x

theorem isFinite_ofBits {u : UInt64} (h : u.toNat / 2 ^ 52 % 2 ^ 11 ≠ 2047) :
    (Float.ofBits u).isFinite = true := by
  change (Float.ofBits u).toModel.unpack.isFinite = true
  rw [unpack_ofBits]
  exact (isFinite_unpack_iff _).mpr h

theorem exactValue_ofBits {u : UInt64} (h : u.toNat / 2 ^ 52 % 2 ^ 11 ≠ 2047) :
    exactValue (Float.ofBits u) = (Dyadic.ofBits u.toNat).value := by
  rw [exactValue, unpack_ofBits]
  exact value_unpack _ ((isFinite_unpack_iff _).mpr h)

/-- A number of full length put together from its sign, its exponent and its mantissa. -/
theorem ofMagnitude_spec (negative : Bool) {m k : ℕ} (hm : 2 ^ 52 ≤ m) (hm' : m < 2 ^ 53)
    (hk : k ≤ 2045) :
    (Float64.ofMagnitude negative (k * 2 ^ 52 + m)).isFinite = true ∧
      exactValue (Float64.ofMagnitude negative (k * 2 ^ 52 + m)) =
        (if negative then -1 else 1) * (m * 2 ^ ((k : ℤ) - 1074)) := by
  set bits := (if negative then Nat.pow 2 63 + (k * 2 ^ 52 + m) else k * 2 ^ 52 + m) with hbits
  have hsplit : (negative = true ∧ bits = 2 ^ 63 + (k * 2 ^ 52 + m)) ∨
      (negative = false ∧ bits = k * 2 ^ 52 + m) := by
    cases negative
    · exact .inr ⟨rfl, hbits⟩
    · exact .inl ⟨rfl, hbits⟩
  have htoNat : (UInt64.ofNat bits).toNat = bits := by
    rw [UInt64.toNat_ofNat']
    omega
  have hsign : decide (bits / 2 ^ 63 = 1) = negative := by
    obtain ⟨rfl, h⟩ | ⟨rfl, h⟩ := hsplit
    · exact decide_eq_true (by omega)
    · exact decide_eq_false (by omega)
  -- The leading bit of `m` is added to the exponent.
  have hscale : bits / 2 ^ 52 % 2 ^ 11 = k + 1 := by omega
  have hfraction : 2 ^ 52 + bits % 2 ^ 52 = m := by omega
  have hfinite : (UInt64.ofNat bits).toNat / 2 ^ 52 % 2 ^ 11 ≠ 2047 := by
    rw [htoNat, hscale]
    omega
  refine ⟨isFinite_ofBits hfinite, ?_⟩
  have hvalue := exactValue_ofBits hfinite
  rw [htoNat, Dyadic.value, Dyadic.ofBits] at hvalue
  simp only [hsign, hscale, hfraction, Nat.add_one_ne_zero, if_false] at hvalue
  rw [show ((k + 1 : ℕ) : ℤ) - 1075 = k - 1074 by push_cast; ring] at hvalue
  exact hvalue

theorem roundDivEven_one (n : ℕ) : roundDivEven n 1 = n := by
  simp [roundDivEven, Nat.mod_one]

/-- A natural number of no more than 53 bits, shifted to full length. -/
theorem full_length {n : ℕ} (hpos : 0 < n) (hlog : n.log2 ≤ 52) :
    2 ^ 52 ≤ n * 2 ^ (52 - n.log2) ∧ n * 2 ^ (52 - n.log2) < 2 ^ 53 := by
  constructor
  · calc 2 ^ 52 = 2 ^ n.log2 * 2 ^ (52 - n.log2) := by rw [← pow_add]; congr 1; omega
      _ ≤ n * 2 ^ (52 - n.log2) := by gcongr; exact Nat.log2_self_le hpos.ne'
  · calc n * 2 ^ (52 - n.log2) < 2 ^ (n.log2 + 1) * 2 ^ (52 - n.log2) := by
          gcongr; exact Nat.lt_log2_self
      _ = 2 ^ 53 := by rw [← pow_add]; congr 1; omega

theorem ofRatio_of_lt {n : ℕ} (hpos : 0 < n) (hlog : n.log2 ≤ 52) (negative : Bool) :
    Float64.ofRatio negative n 1 = Float64.ofMagnitude negative
      ((1022 + n.log2) * 2 ^ 52 + n * 2 ^ (52 - n.log2)) := by
  obtain ⟨hlow, hhigh⟩ := full_length hpos hlog
  have hlog1 : Nat.log2 1 = 0 := rfl
  have hshift : (-((n.log2 : ℤ) - 52)).toNat = 52 - n.log2 := by omega
  have hshift' : (-((n.log2 : ℤ) - 52 - 1)).toNat = 52 - n.log2 + 1 := by omega
  have hnone : ((n.log2 : ℤ) - 52).toNat = 0 := by omega
  have hnone' : ((n.log2 : ℤ) - 52 - 1).toNat = 0 := by omega
  have hmax : max ((n.log2 : ℤ) - 52) (-1074) = n.log2 - 52 := by omega
  have hbits : ((n.log2 : ℤ) - 52 + 1074).toNat = 1022 + n.log2 := by omega
  have htwice : n * 2 ^ (52 - n.log2 + 1) = 2 * (n * 2 ^ (52 - n.log2)) := by ring
  have hlong : ¬2 * (n * 2 ^ (52 - n.log2)) < 2 ^ 53 := by omega
  have hmin : min ((1022 + n.log2) * 2 ^ 52 + n * 2 ^ (52 - n.log2)) Float64.infinityBits =
      (1022 + n.log2) * 2 ^ 52 + n * 2 ^ (52 - n.log2) := by
    refine min_eq_left ?_
    rw [Float64.infinityBits, Nat.pow_eq]
    omega
  unfold Float64.ofRatio
  rw [if_neg hpos.ne']
  simp only [hlog1, Int.natCast_zero, sub_zero, hshift, hshift', hnone, hnone', Nat.pow_eq,
    pow_zero, mul_one, Nat.div_one, htwice, hhigh, hlong, decide_true, decide_false, if_true,
    Bool.false_eq_true, if_false, hmax, roundDivEven_one, hlow.not_gt, hbits, hmin]

theorem ofRatio_spec {n : ℕ} (hn : n < 2 ^ 53) (negative : Bool) :
    (Float64.ofRatio negative n 1).isFinite = true ∧
      exactValue (Float64.ofRatio negative n 1) = (if negative then -1 else 1) * n := by
  obtain rfl | hpos := Nat.eq_zero_or_pos n
  · refine ⟨by cases negative <;> rfl, ?_⟩
    have hunpack : (Float64.ofRatio negative 0 1).toModel.unpack =
        .zero (if negative then .negative else .positive) := by cases negative <;> rfl
    rw [exactValue_of_unpack hunpack, value_zero, Nat.cast_zero, mul_zero]
  have hlog : n.log2 ≤ 52 := log2_le_of_lt hn
  obtain ⟨hlow, hhigh⟩ := full_length hpos hlog
  obtain ⟨hfinite, hvalue⟩ := ofMagnitude_spec negative (k := 1022 + n.log2) hlow hhigh (by omega)
  rw [ofRatio_of_lt hpos hlog]
  refine ⟨hfinite, hvalue.trans ?_⟩
  have hexponent : ((1022 + n.log2 : ℕ) : ℤ) - 1074 = -((52 - n.log2 : ℕ) : ℤ) := by omega
  rw [hexponent, zpow_neg, zpow_natCast]
  push_cast
  rw [mul_inv_cancel_right₀ (by positivity)]

theorem ofInt_spec {k : ℤ} (hk : k.natAbs < 2 ^ 53) :
    (Float64.ofInt k).isFinite = true ∧ exactValue (Float64.ofInt k) = k := by
  obtain ⟨hfinite, hvalue⟩ := ofRatio_spec hk (k < 0)
  refine ⟨hfinite, hvalue.trans ?_⟩
  obtain ⟨n, rfl | rfl⟩ := k.eq_nat_or_neg <;> simp

/-! ### Rounding -/

/-- **Rounding gives the integer nearest to a number**, without error. -/
theorem round_spec {x : Float} (h : x.isFinite = true) :
    (Float64.round x).isFinite = true ∧ exactValue (Float64.round x) = away (exactValue x) := by
  have haway : away (exactValue x) =
      (if (Dyadic.ofFloat x).negative then -1 else 1) * (Dyadic.ofFloat x).roundMagnitude := by
    rw [exactValue_eq h, Dyadic.value, away_signed _ (by positivity), Dyadic.roundMagnitude_eq]
  have hmantissa : (Dyadic.ofFloat x).mantissa < 2 ^ 53 := Dyadic.mantissa_ofBits_lt _
  rw [haway, Float64.round, h, Bool.true_and]
  generalize hd : Dyadic.ofFloat x = d at *
  cases hinteger : d.isInteger
  · exact ofRatio_spec (d.roundMagnitude_lt hmantissa hinteger) _
  · refine ⟨h, ?_⟩
    rw [Bool.not_true, if_neg Bool.false_ne_true, exactValue_eq h, hd, Dyadic.value,
      d.roundMagnitude_of_isInteger hinteger]

theorem KeepsOrder.round : KeepsOrder Float64.round := by
  refine ⟨fun x hx => isNaN_of_isFinite (round_spec hx).1, fun x s hx => ?_,
    fun x y hx hy hle => ?_⟩
  · have : x.isFinite = false := by
      change x.toModel.unpack.isFinite = false
      rw [hx]
      rfl
    rwa [Float64.round, this, Bool.false_and, if_neg Bool.false_ne_true]
  · rw [(round_spec hx).2, (round_spec hy).2]
    exact away_mono hle

end Binary64

end PingPost
