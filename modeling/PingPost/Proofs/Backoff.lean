import PingPost.Retry.Policy

/-!
Delays are those of unbounded numbers.

The delay before an attempt is computed in words that stop at the greatest one. The longest delay of
a policy is a word as well, so what is lost where a word stops lies above the longest delay and
would have been cut anyway (`RetryPolicy.delayMs_exact`).
-/

namespace PingPost.RetryPolicy

/-- The delay before an attempt, counted from one, if nothing cut it. -/
def growthMs (p : RetryPolicy) (n : Nat) : Nat :=
  match p.backoff with
  | .exponential => p.baseDelayMs * Nat.pow 2 (n - 1)
  | .linear => p.baseDelayMs * n
  | .fixed => p.baseDelayMs

variable {p : RetryPolicy} {longest : Nat}

theorem min_saturatingMul (hlongest : longest ≤ maxWord) (a b : Nat) :
    min (saturatingMul a b) longest = min (a * b) longest := by
  rw [saturatingMul, Nat.min_assoc, Nat.min_eq_right hlongest]

/-- A power of two that is no word is cut, but any multiple of it is still above the longest delay,
unless it is zero. -/
theorem min_mul_saturatingPowTwo (hlongest : longest ≤ maxWord) (a n : Nat) :
    min (a * saturatingPowTwo n) longest = min (a * Nat.pow 2 n) longest := by
  unfold saturatingPowTwo
  split
  · rfl
  rename_i hn
  obtain rfl | ha := Nat.eq_zero_or_pos a
  · rw [Nat.zero_mul, Nat.zero_mul]
  have hpow : maxWord ≤ Nat.pow 2 n :=
    Nat.le_trans (Nat.sub_le _ _) (Nat.pow_le_pow_right (by decide) (Nat.not_lt.mp hn))
  have hcut : longest ≤ a * maxWord := Nat.le_trans hlongest (Nat.le_mul_of_pos_left _ ha)
  have hexact : longest ≤ a * Nat.pow 2 n :=
    Nat.le_trans hlongest (Nat.le_trans hpow (Nat.le_mul_of_pos_left _ ha))
  rw [Nat.min_eq_right hcut, Nat.min_eq_right hexact]

theorem delayMs_eq (hlongest : p.maxDelayMs ≤ maxWord) (attempt : Nat) :
    p.delayMs attempt = min (p.growthMs (max attempt 1)) p.maxDelayMs := by
  unfold delayMs growthMs
  cases p.backoff with
  | exponential =>
    exact (min_saturatingMul hlongest _ _).trans (min_mul_saturatingPowTwo hlongest _ _)
  | linear => exact min_saturatingMul hlongest _ _
  | fixed => rfl

theorem delayMs_le (p : RetryPolicy) (attempt : Nat) : p.delayMs attempt ≤ p.maxDelayMs :=
  Nat.min_le_right _ _

theorem growthMs_mono (p : RetryPolicy) {m n : Nat} (h : m ≤ n) : p.growthMs m ≤ p.growthMs n := by
  unfold growthMs
  split
  · exact Nat.mul_le_mul_left _
      (Nat.pow_le_pow_right (by decide) (Nat.sub_le_sub_right h 1))
  · exact Nat.mul_le_mul_left _ h
  · exact Nat.le_refl _

theorem growthMs_one (p : RetryPolicy) : p.growthMs 1 = p.baseDelayMs := by
  unfold growthMs
  split
  · exact Nat.mul_one _
  · exact Nat.mul_one _
  · rfl

/-- **A delay is what unbounded numbers give, cut at the longest delay.** So it is never longer than
that, never shorter than the first delay, and grows from attempt to attempt or stays the same. -/
theorem delayMs_exact (hlongest : p.maxDelayMs ≤ maxWord) (attempt : Nat) :
    p.delayMs attempt = min (p.growthMs (max attempt 1)) p.maxDelayMs ∧
      p.delayMs attempt ≤ p.maxDelayMs ∧
      min p.baseDelayMs p.maxDelayMs ≤ p.delayMs attempt ∧
      ∀ later, attempt ≤ later → p.delayMs attempt ≤ p.delayMs later := by
  have hmono {m n : Nat} (h : m ≤ n) :
      min (p.growthMs m) p.maxDelayMs ≤ min (p.growthMs n) p.maxDelayMs :=
    Nat.le_min.mpr ⟨Nat.le_trans (Nat.min_le_left _ _) (p.growthMs_mono h), Nat.min_le_right _ _⟩
  refine ⟨delayMs_eq hlongest attempt, p.delayMs_le attempt, ?_, fun later hlater => ?_⟩
  · rw [← growthMs_one, delayMs_eq hlongest]
    exact hmono (Nat.le_max_right _ _)
  · rw [delayMs_eq hlongest, delayMs_eq hlongest]
    exact hmono (Nat.max_le.mpr ⟨Nat.le_trans hlater (Nat.le_max_left _ _), Nat.le_max_right _ _⟩)

/-- Three milliseconds, doubled up to the greatest word. -/
def doubling : RetryPolicy := ⟨100, .exponential, 3, maxWord⟩

/-- The delay before attempt 65 is no word without the cut. -/
theorem delayMs_exact_sample :
    doubling.maxDelayMs ≤ maxWord ∧ maxWord < doubling.growthMs 65 ∧
      doubling.delayMs 65 = min (doubling.growthMs (max 65 1)) doubling.maxDelayMs ∧
      doubling.delayMs 65 ≤ doubling.maxDelayMs ∧
      min doubling.baseDelayMs doubling.maxDelayMs ≤ doubling.delayMs 65 ∧
      ∀ later, 65 ≤ later → doubling.delayMs 65 ≤ doubling.delayMs later :=
  ⟨Nat.le_refl _, by decide, delayMs_exact (Nat.le_refl _) 65⟩

end PingPost.RetryPolicy
