import PingPost.Price.Basic
import PingPost.Proofs.Rounding

/-!
The lowest and the highest bid, and the prices.

An amount is compared with the bounds first and rounded to cents last. Rounding keeps the order
(`Pricing.roundCents_mono`), so a price lies between the rounded bounds; all prices lie between the
bounds themselves just when the bounds do (`Pricing.price_between`). Bounds of whole cents do
(`Pricing.survivesRounding_of_wholeCents`), finer ones need not (`Pricing.price_past_bounds`).
-/

namespace PingPost.Pricing

open Binary64

/-! ### Rounding to cents -/

variable {p : Pricing} {x a : Float}

theorem exactValue_hundred : exactValue 100 = 100 := by
  have hunpack : (100 : Float).toModel.unpack = .finite .positive (25 * 2 ^ 48) (-46) (by decide) :=
    rfl
  rw [exactValue_of_unpack hunpack, value_finite]
  norm_num [signum]

/-- Rounding to cents keeps the order. -/
theorem roundCents_mono {y : Float} (h : x ≤ y) : roundCents x ≤ roundCents y := by
  have hpos : 0 < exactValue 100 := by norm_num [exactValue_hundred]
  exact (KeepsOrder.div rfl hpos).le (KeepsOrder.round.le ((KeepsOrder.mul rfl hpos).le h))

theorem isNaN_roundCents (h : x.isNaN = false) : (roundCents x).isNaN = false :=
  (float_le_iff.mp (roundCents_mono (float_le_refl h))).1

theorem roundCents_nan : roundCents .nan = .nan := by decide

theorem isNaN_of_roundCents (h : (roundCents x).isNaN = false) : x.isNaN = false := by
  cases hx : x.isNaN with
  | false => rfl
  | true =>
    rw [Float.isNaN_eq_decide_eq_nan, decide_eq_true_eq] at hx
    rw [hx, roundCents_nan] at h
    exact absurd h (by decide)

/-- The number nearest to a number of whole cents. -/
def WholeCents (x : Float) : Prop := ∃ k : ℤ, k.natAbs ≤ 2 ^ 50 ∧ x = Float64.ofInt k / 100

theorem abs_cents_le {k : ℤ} (hk : k.natAbs ≤ 2 ^ 50) : |(k : ℚ)| ≤ 2 ^ 50 := by
  exact_mod_cast abs_le.mpr (by omega : _ ∧ k ≤ 2 ^ 50)

theorem lt_top_of_le {q : ℚ} (h : q ≤ 2 ^ 60) : q < top :=
  h.trans_lt (pow_lt_pow_right₀ (by norm_num) (by norm_num))

/-- There is a number of the grid near every moderate number of cents. -/
theorem exists_grid_near {k : ℤ} (hk : k.natAbs ≤ 2 ^ 50) :
    ∃ g, Grid g ∧ |(k / 100 : ℚ) - g| ≤ 1 / 512 := by
  refine ⟨(k * 512 / 100 : ℤ) * 2 ^ (-9 : ℤ), ⟨_, -9, ?_, by norm_num, rfl⟩, ?_⟩
  · rw [abs_le]
    omega
  · have hlow : (100 * (k * 512 / 100 : ℤ) : ℚ) ≤ k * 512 := by
      exact_mod_cast Int.mul_ediv_self_le (by norm_num)
    have hhigh : (k * 512 : ℚ) < 100 * (k * 512 / 100 : ℤ) + 100 := by
      exact_mod_cast (by omega : k * 512 < 100 * (k * 512 / 100) + 100)
    rw [abs_le, zpow_neg]
    norm_num
    constructor <;> linarith

theorem cents_spec {k : ℤ} (hk : k.natAbs ≤ 2 ^ 50) : (Float64.ofInt k / 100).isFinite = true ∧
    |exactValue (Float64.ofInt k / 100) * 100 - k| ≤ 100 / 512 := by
  obtain ⟨hfinite, hvalue⟩ := ofInt_spec (k := k) (by omega)
  have hdiv := rounds_div hfinite (y := 100) rfl (by norm_num [exactValue_hundred])
  rw [hvalue, exactValue_hundred] at hdiv
  obtain ⟨g, hg, hnear⟩ := exists_grid_near hk
  have hsmall : |(k / 100 : ℚ)| ≤ 2 ^ 50 := by
    obtain ⟨hlow, hhigh⟩ := abs_le.mp (abs_cents_le hk)
    exact abs_le.mpr ⟨by linarith, by linarith⟩
  obtain ⟨hx, herror⟩ := hdiv.near hg (lt_top_of_le (by linarith))
  refine ⟨hx, ?_⟩
  obtain ⟨hlow, hhigh⟩ := abs_le.mp (herror.trans hnear)
  exact abs_le.mpr ⟨by linarith, by linarith⟩

/-- Rounding finds back the cents, since the errors of the division by a hundred and of the
multiplication are far from half of a cent. -/
theorem roundCents_of_wholeCents (h : WholeCents x) : roundCents x = x := by
  obtain ⟨k, hk, rfl⟩ := h
  obtain ⟨hx, herror⟩ := cents_spec hk
  have hmul := rounds_mul hx (y := 100) rfl
  rw [exactValue_hundred] at hmul
  generalize exactValue (Float64.ofInt k / 100) = q at *
  have hcents : Grid k := ⟨k, 0, abs_le.mpr (by omega), by norm_num, by norm_num⟩
  have hsmall : |q * 100| ≤ 2 ^ 51 := by
    obtain ⟨hlow, hhigh⟩ := abs_le.mp (abs_cents_le hk)
    obtain ⟨hlow', hhigh'⟩ := abs_le.mp herror
    exact abs_le.mpr ⟨by linarith, by linarith⟩
  obtain ⟨hy, herror'⟩ := hmul.near hcents (lt_top_of_le (by linarith))
  have hnear : |exactValue (Float64.ofInt k / 100 * 100) - k| < 1 / 2 := by
    obtain ⟨hlow, hhigh⟩ := abs_le.mp herror
    obtain ⟨hlow', hhigh'⟩ := abs_le.mp (herror'.trans herror)
    exact abs_lt.mpr ⟨by linarith, by linarith⟩
  obtain ⟨hround, hvalue⟩ := round_spec hy
  rw [away_of_near hnear] at hvalue
  obtain ⟨hfinite, hvalue'⟩ := ofInt_spec (k := k) (by omega)
  obtain heq | hzero := eq_or_zero (isNaN_of_isFinite hround) (isNaN_of_isFinite hfinite)
    (hvalue.trans hvalue'.symm)
  · rw [roundCents, heq]
  · obtain rfl : k = 0 := by exact_mod_cast hvalue.symm.trans hzero
    decide +kernel

/-! ### Bounds -/

/-- A price lies between the lowest and the highest bid. -/
def Allows (p : Pricing) (x : Float) : Prop :=
  (∀ low, p.minBid = some low → low.val ≤ x) ∧ ∀ high, p.maxBid = some high → x ≤ high.val

/-- The lowest bid is not above the highest. -/
def Ordered (p : Pricing) : Prop :=
  ∀ low high, p.minBid = some low → p.maxBid = some high → low.val ≤ high.val

/-- Rounding to cents does not take the bounds out of the interval they bound. -/
def SurvivesRounding (p : Pricing) : Prop :=
  (∀ low, p.minBid = some low → low.val ≤ roundCents low.val) ∧
    ∀ high, p.maxBid = some high → roundCents high.val ≤ high.val

theorem survivesRounding_of_wholeCents (hlow : ∀ low, p.minBid = some low → WholeCents low.val)
    (hhigh : ∀ high, p.maxBid = some high → WholeCents high.val) : p.SurvivesRounding := by
  refine ⟨fun low hmin => ?_, fun high hmax => ?_⟩
  · rw [roundCents_of_wholeCents (hlow low hmin)]
    exact float_le_refl (isNaN_of_isFinite low.2)
  · rw [roundCents_of_wholeCents (hhigh high hmax)]
    exact float_le_refl (isNaN_of_isFinite high.2)

theorem clamp_eq_amount_iff : p.clamp x = .amount a ↔
    (∀ low, p.minBid = some low → ¬x < low.val) ∧ a = roundCents (p.cap x) := by
  unfold clamp
  cases p.minBid with
  | none => simp [eq_comm]
  | some low => by_cases hlt : x < low.val <;> simp [hlt, eq_comm]

theorem clamp_eq_belowFloor_iff :
    p.clamp x = .belowFloor a ↔ ∃ low, p.minBid = some low ∧ x < low.val ∧ x = a := by
  unfold clamp
  cases p.minBid with
  | none => simp
  | some low => by_cases hlt : x < low.val <;> simp [hlt]

/-- Every price is that of some amount under the bounds, or there is none. -/
theorem price_cases (amount : Option Float) (facts : Json) :
    (∃ x, p.price amount facts = p.clamp x) ∨ p.price amount facts = .unpriced := by
  cases amount with
  | some x => exact .inl ⟨x, rfl⟩
  | none =>
    unfold price
    dsimp only
    split
    · exact .inr rfl
    · exact .inl ⟨_, rfl⟩

theorem cap_cases (p : Pricing) (x : Float) :
    (∃ high, p.maxBid = some high ∧ high.val < x ∧ p.cap x = high.val) ∨
      p.cap x = x ∧ ∀ high, p.maxBid = some high → ¬high.val < x := by
  unfold cap
  cases p.maxBid with
  | none => exact .inr ⟨rfl, nofun⟩
  | some high =>
    dsimp only
    split <;> rename_i hlt
    · exact .inl ⟨high, rfl, hlt, rfl⟩
    · exact .inr ⟨rfl, fun _ h => Option.some.inj h ▸ hlt⟩

theorem Ordered.cap_between (hp : p.Ordered) (hx : x.isNaN = false)
    (hlow : ∀ low, p.minBid = some low → ¬x < low.val) : p.Allows (p.cap x) := by
  obtain ⟨high, hmax, -, hcap⟩ | ⟨hcap, hhigh⟩ := cap_cases p x <;> rw [hcap]
  · refine ⟨fun low hmin => hp low high hmin hmax, fun high' hmax' => ?_⟩
    obtain rfl := Option.some.inj (hmax.symm.trans hmax')
    exact float_le_refl (isNaN_of_isFinite high.2)
  · exact ⟨fun low hmin => float_le_of_not_lt hx (isNaN_of_isFinite low.2) (hlow low hmin),
      fun high hmax => float_le_of_not_lt (isNaN_of_isFinite high.2) hx (hhigh high hmax)⟩

/-- A price is a rounded amount between the bounds. -/
theorem Ordered.exists_of_price (hp : p.Ordered) {amount : Option Float} {facts : Json}
    (h : p.price amount facts = .amount a) (ha : a.isNaN = false) :
    ∃ x, p.Allows x ∧ a = roundCents x := by
  obtain ⟨x, hx⟩ | hnone := price_cases (p := p) amount facts
  · rw [hx] at h
    obtain ⟨hlow, rfl⟩ := clamp_eq_amount_iff.mp h
    refine ⟨_, hp.cap_between ?_ hlow, rfl⟩
    obtain ⟨_, -, hlt, -⟩ | ⟨hcap, -⟩ := cap_cases p x
    · exact (float_lt_iff.mp hlt).2.1
    · rw [hcap] at ha
      exact isNaN_of_roundCents ha
  · rw [hnone] at h
    cases h

/-- What is paid for an amount that is one of the bounds. -/
theorem Ordered.price_of_bound (hp : p.Ordered) {bound : Finite}
    (h : p.minBid = some bound ∨ p.maxBid = some bound) (facts : Json) :
    p.price (some bound.val) facts = .amount (roundCents bound.val) := by
  have hbound : p.Allows bound.val := by
    have hrefl := float_le_refl (isNaN_of_isFinite bound.2)
    constructor <;> intro other hother <;> obtain hmin | hmax := h
    · rwa [← Option.some.inj (hmin.symm.trans hother)]
    · exact hp other bound hother hmax
    · exact hp bound other hmin hother
    · rwa [← Option.some.inj (hmax.symm.trans hother)]
  refine clamp_eq_amount_iff.mpr ⟨fun low hmin => float_not_lt (hbound.1 low hmin), ?_⟩
  obtain ⟨high, hmax, hlt, -⟩ | ⟨hcap, -⟩ := cap_cases p bound.val
  · exact absurd hlt (float_not_lt (hbound.2 high hmax))
  · rw [hcap]

section

variable {amount : Option Float} {facts : Json}

theorem Ordered.price_between_rounded (hp : p.Ordered) (h : p.price amount facts = .amount a)
    (ha : a.isNaN = false) : (∀ low, p.minBid = some low → roundCents low.val ≤ a) ∧
      ∀ high, p.maxBid = some high → a ≤ roundCents high.val := by
  obtain ⟨x, hx, rfl⟩ := hp.exists_of_price h ha
  exact ⟨fun low hmin => roundCents_mono (hx.1 low hmin),
    fun high hmax => roundCents_mono (hx.2 high hmax)⟩

theorem SurvivesRounding.allows (hsurvives : p.SurvivesRounding) (hp : p.Ordered)
    (h : p.price amount facts = .amount a) (ha : a.isNaN = false) : p.Allows a := by
  obtain ⟨hlow, hhigh⟩ := hp.price_between_rounded h ha
  exact ⟨fun low hmin => float_le_trans (hsurvives.1 low hmin) (hlow low hmin),
    fun high hmax => float_le_trans (hhigh high hmax) (hsurvives.2 high hmax)⟩

/-- The bounds are amounts as well, and what is paid for them is what they are rounded to. -/
theorem Ordered.survivesRounding (hp : p.Ordered)
    (h : ∀ amount facts a, p.price amount facts = .amount a → a.isNaN = false → p.Allows a) :
    p.SurvivesRounding := by
  constructor
  · intro low hmin
    have hnan := isNaN_roundCents (isNaN_of_isFinite low.2)
    exact (h _ .null _ (hp.price_of_bound (.inl hmin) .null) hnan).1 low hmin
  · intro high hmax
    have hnan := isNaN_roundCents (isNaN_of_isFinite high.2)
    exact (h _ .null _ (hp.price_of_bound (.inr hmax) .null) hnan).2 high hmax

theorem lt_of_price_belowFloor (h : p.price amount facts = .belowFloor a) :
    ∃ low, p.minBid = some low ∧ a < low.val := by
  obtain ⟨x, hx⟩ | hnone := price_cases (p := p) amount facts
  · rw [hx] at h
    obtain ⟨low, hmin, hlt, rfl⟩ := clamp_eq_belowFloor_iff.mp h
    exact ⟨low, hmin, hlt⟩
  · rw [hnone] at h
    cases h

end

/-- **A price lies between the bounds rounded to cents**; all prices lie between the bounds
themselves just when rounding does not take the bounds out. What is refused is below the lowest
bid. -/
theorem price_between (p : Pricing) (hp : p.Ordered) :
    (∀ amount facts a, p.price amount facts = .amount a → a.isNaN = false →
      (∀ low, p.minBid = some low → roundCents low.val ≤ a) ∧
        ∀ high, p.maxBid = some high → a ≤ roundCents high.val) ∧
    ((∀ amount facts a, p.price amount facts = .amount a → a.isNaN = false → p.Allows a) ↔
      p.SurvivesRounding) ∧
    ∀ amount facts a, p.price amount facts = .belowFloor a →
      ∃ low, p.minBid = some low ∧ a < low.val := by
  refine ⟨fun _ _ _ h ha => hp.price_between_rounded h ha, ⟨hp.survivesRounding, ?_⟩,
    fun _ _ _ h => lt_of_price_belowFloor h⟩
  intro hsurvives amount facts a h ha
  exact hsurvives.allows hp h ha

/-- Bounds without anything else. -/
def bounds (low high : Finite) : Pricing := ⟨standard.basePrice, some low, some high, []⟩

theorem bounds_ordered {low high : Finite} (h : low.val ≤ high.val) : (bounds low high).Ordered :=
  fun _ _ hmin hmax => by rwa [← Option.some.inj hmin, ← Option.some.inj hmax]

theorem price_bounds {low high : Finite} (h : ¬x < low.val)
    (ha : roundCents ((bounds low high).cap x) = a) :
    (bounds low high).price (some x) .null = .amount a := by
  refine (clamp_eq_amount_iff (p := bounds low high)).mpr ⟨fun low' hmin => ?_, ha.symm⟩
  rwa [← Option.some.inj hmin]

theorem price_between_sample :
    (bounds ⟨10, rfl⟩ ⟨60, rfl⟩).price (some 59.999) .null = .amount 60 ∧
      (bounds ⟨10, rfl⟩ ⟨60, rfl⟩).Allows 60 := by
  have hp : (bounds ⟨10, rfl⟩ ⟨60, rfl⟩).Ordered := bounds_ordered (by decide)
  have hsurvives : (bounds ⟨10, rfl⟩ ⟨60, rfl⟩).SurvivesRounding := by
    constructor <;> rintro _ ⟨⟩ <;> decide
  have hprice : (bounds ⟨10, rfl⟩ ⟨60, rfl⟩).price (some 59.999) .null = .amount 60 :=
    price_bounds (by decide) (by decide)
  exact ⟨hprice, (price_between _ hp).2.1.mpr hsurvives _ _ _ hprice (by decide)⟩

/-- A highest bid of a fraction of a cent is exceeded, and a lowest bid of a fraction of a cent is
undercut. -/
theorem price_past_bounds :
    ((bounds ⟨10.006, rfl⟩ ⟨10.006, rfl⟩).Ordered ∧
      ∃ a, (bounds ⟨10.006, rfl⟩ ⟨10.006, rfl⟩).price (some 20) .null = .amount a ∧
        (10.006 : Float) < a) ∧
    (bounds ⟨10.004, rfl⟩ ⟨10.004, rfl⟩).Ordered ∧
      ∃ a, (bounds ⟨10.004, rfl⟩ ⟨10.004, rfl⟩).price (some 10.004) .null = .amount a ∧
        a < (10.004 : Float) :=
  ⟨⟨bounds_ordered (by decide), _, price_bounds (by decide) rfl,
      by decide⟩,
    bounds_ordered (by decide), _, price_bounds (by decide) rfl,
    by decide⟩

end PingPost.Pricing
