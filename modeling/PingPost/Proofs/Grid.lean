import Mathlib

/-!
The grid of the binary64 numbers, without an upper end, and the numbers of the grid that are nearest
to a rational number.

Of two numbers equally near either may be taken. What is taken for a smaller number is never above
what is taken for a greater one all the same (`Nearest.le_of_lt`), so no rule for ties is needed to
see that rounding keeps the order.
-/

namespace PingPost.Binary64

/-- The numbers that a mantissa of 53 bits and an exponent without upper end can express. -/
def Grid (q : ℚ) : Prop := ∃ m e : ℤ, |m| ≤ 2 ^ 53 ∧ -1074 ≤ e ∧ q = m * 2 ^ e

/-- A number of the grid than which no other is nearer. -/
structure Nearest (q r : ℚ) : Prop where
  grid : Grid r
  least : ∀ g, Grid g → |q - r| ≤ |q - g|

theorem Grid.neg {q : ℚ} : Grid q → Grid (-q) := by
  rintro ⟨m, e, hm, he, rfl⟩
  exact ⟨-m, e, by rwa [abs_neg], he, by push_cast; ring⟩

/-- A number that is not nearer to `r'` than to a greater `r` is not below their middle. -/
theorem add_le_of_nearer {q r r' : ℚ} (h : |q - r| ≤ |q - r'|) (hlt : r' < r) :
    r + r' ≤ 2 * q := by
  have := sq_le_sq.mpr h
  nlinarith

/-- An integer next to `x` is at least as near to it as any other. -/
theorem abs_sub_le_of_half {x : ℚ} {m k : ℤ} (h : |x - m| ≤ 1 / 2) : |x - m| ≤ |x - k| := by
  by_cases hk : k = m
  · rw [hk]
  · have hone : (1 : ℚ) ≤ |(m : ℚ) - k| := by
      exact_mod_cast Int.one_le_abs (sub_ne_zero.mpr (Ne.symm hk))
    have htri : |(m : ℚ) - k| ≤ |x - m| + |x - k| := by
      rw [abs_sub_comm x m]
      exact abs_sub_le _ _ _
    linarith

namespace Nearest

variable {q q' r r' : ℚ}

theorem neg (h : Nearest q r) : Nearest (-q) (-r) := by
  refine ⟨h.grid.neg, fun g hg => ?_⟩
  have := h.least (-g) hg.neg
  rwa [show -q - -r = -(q - r) by ring, show -q - g = -(q - -g) by ring, abs_neg, abs_neg]

theorem of_grid (h : Grid q) : Nearest q q := by
  refine ⟨h, fun g _ => ?_⟩
  rw [sub_self, abs_zero]
  exact abs_nonneg _

theorem eq_of_grid (h : Nearest q r) (hq : Grid q) : r = q := by
  have := h.least q hq
  rw [sub_self, abs_zero] at this
  exact (sub_eq_zero.mp (abs_nonpos_iff.mp this)).symm

theorem zero : Nearest 0 0 := of_grid ⟨0, 0, by norm_num, by norm_num, by norm_num⟩

/-- Results the other way round would be on the wrong sides of their middle. -/
theorem le_of_lt (h : Nearest q r) (h' : Nearest q' r') (hlt : q < q') : r ≤ r' := by
  by_contra! hgt
  have hq := add_le_of_nearer (h.least r' h'.grid) hgt
  have hq' := add_le_of_nearer (h'.neg.least (-r) h.grid.neg) (neg_lt_neg hgt)
  linarith

/-- The nearest multiple of a power of two is a nearest number of the grid if the number is so large
that the grid has no finer points there. -/
theorem of_half {m : ℕ} {e : ℤ} (hm : m ≤ 2 ^ 53) (he : -1074 ≤ e)
    (hhalf : |q / 2 ^ e - m| ≤ 1 / 2) (hfull : e = -1074 ∨ 2 ^ 52 ≤ q / 2 ^ e) :
    Nearest q (m * 2 ^ e) := by
  have hpos : (0 : ℚ) < 2 ^ e := by positivity
  have hscale (x : ℚ) : |q - x * 2 ^ e| = |q / 2 ^ e - x| * 2 ^ e := by
    rw [← abs_of_pos hpos, ← abs_mul, abs_of_pos hpos, sub_mul, div_mul_cancel₀ _ hpos.ne']
  have hmultiple (k : ℤ) : |q - m * 2 ^ e| ≤ |q - k * 2 ^ e| := by
    rw [hscale, hscale]
    exact mul_le_mul_of_nonneg_right (abs_sub_le_of_half (m := m) (mod_cast hhalf)) hpos.le
  refine ⟨⟨m, e, by simpa using (mod_cast hm : (m : ℤ) ≤ 2 ^ 53), he, by push_cast; rfl⟩, ?_⟩
  rintro g ⟨n, f, hn, hf, rfl⟩
  obtain hef | hfe := le_or_gt e f
  · obtain ⟨d, rfl⟩ := Int.le.dest hef
    have := hmultiple (n * 2 ^ d)
    rw [zpow_add₀ two_ne_zero, zpow_natCast]
    push_cast at this
    rwa [mul_comm ((2 : ℚ) ^ e), ← mul_assoc]
  · -- All finer points are below `2 ^ 52 * 2 ^ e`, which is a multiple itself.
    have hq : 2 ^ 52 * 2 ^ e ≤ q := (le_div_iff₀ hpos).mp (hfull.resolve_left (by omega))
    have hg : (n : ℚ) * 2 ^ f ≤ 2 ^ 52 * 2 ^ e := by
      have hn : (n : ℚ) ≤ 2 ^ 53 := by exact_mod_cast (le_abs_self n).trans hn
      have hf : (2 : ℚ) ^ f ≤ 2 ^ (e - 1) := zpow_le_zpow_right₀ (by norm_num) (by omega)
      calc (n : ℚ) * 2 ^ f ≤ 2 ^ 53 * 2 ^ (e - 1) := by gcongr
        _ = 2 ^ 52 * 2 ^ e := by rw [zpow_sub_one₀ two_ne_zero]; ring
    have := hmultiple (2 ^ 52)
    rw [Int.cast_pow, Int.cast_ofNat] at this
    rw [abs_of_nonneg (show 0 ≤ q - (n : ℚ) * 2 ^ f by linarith)]
    rw [abs_of_nonneg (show 0 ≤ q - 2 ^ 52 * 2 ^ e by linarith)] at this
    linarith

end Nearest

end PingPost.Binary64
