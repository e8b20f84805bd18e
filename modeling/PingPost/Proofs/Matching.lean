import PingPost.Pattern.Match

/-!
What a pattern matches.

`Pattern.Matches` says from which position of a text to which other a pattern matches, by recursion
on the pattern. The matcher moves sets of positions instead: a function on such sets is right about
a relation between positions if it `Leads` along it, and `Pattern.reach_leads` says so of the
matcher, by induction on the pattern. So `Pattern.isMatch` tells truly whether some part of a text
matches (`Pattern.isMatch_iff`).

A repetition without an upper bound is cut off after as many rounds as there are positions. That is
enough because a match never goes back and ends within the text (`Pattern.Matches.le`,
`Pattern.Matches.le_length`): rounds that do not move may be left out (`Steps.shorten`).
-/

namespace PingPost

/-! ### Repeated steps -/

/-- Whether a number of steps lead from one position to another. -/
def Steps (R : Nat → Nat → Prop) : Nat → Nat → Nat → Prop
  | 0, i, j => i = j
  | n + 1, i, j => ∃ k, R i k ∧ Steps R n k j

section

variable {R : Nat → Nat → Prop} {i j n : Nat}

theorem steps_add {m : Nat} : Steps R (m + n) i j ↔ ∃ k, Steps R m i k ∧ Steps R n k j := by
  induction m generalizing i with
  | zero => simp [Steps]
  | succ m ih =>
    rw [Nat.succ_add]
    simp only [Steps, ih]
    exact ⟨fun ⟨l, hl, k, hk, hkj⟩ => ⟨k, ⟨l, hl, hk⟩, hkj⟩,
      fun ⟨k, ⟨l, hl, hk⟩, hkj⟩ => ⟨l, hl, k, hk, hkj⟩⟩

theorem steps_one : Steps R 1 i j ↔ R i j := by simp [Steps]

/-- Steps may be made backwards. -/
theorem steps_flip : Steps (flip R) n j i ↔ Steps R n i j := by
  induction n generalizing i with
  | zero => exact eq_comm
  | succ n ih =>
    rw [steps_add, Steps]
    simp only [steps_one, ih]
    exact exists_congr fun k => and_comm

namespace Steps

theorem le (hR : ∀ i j, R i j → i ≤ j) (h : Steps R n i j) : i ≤ j := by
  induction n generalizing i with
  | zero => exact Nat.le_of_eq h
  | succ n ih =>
    obtain ⟨k, hik, hkj⟩ := h
    exact Nat.le_trans (hR i k hik) (ih hkj)

theorem le_length {length : Nat} (hR : ∀ i j, R i j → i < j → j ≤ length) (h : Steps R n i j)
    (hij : i < j) : j ≤ length := by
  induction n generalizing i with
  | zero => exact (Nat.ne_of_lt hij h).elim
  | succ n ih =>
    obtain ⟨k, hik, hkj⟩ := h
    by_cases hk : k < j
    · exact ih hkj hk
    · exact Nat.le_trans (Nat.not_lt.mp hk) (hR i k hik (Nat.lt_of_lt_of_le hij (Nat.not_lt.mp hk)))

/-- Steps that do not move may be left out. -/
theorem shorten (hR : ∀ i j, R i j → i ≤ j) (h : Steps R n i j) :
    ∃ m ≤ j - i, Steps R m i j := by
  induction n generalizing i with
  | zero => exact ⟨0, Nat.zero_le _, h⟩
  | succ n ih =>
    obtain ⟨k, hik, hkj⟩ := h
    obtain ⟨m, hm, hmkj⟩ := ih hkj
    rcases Nat.eq_or_lt_of_le (hR i k hik) with rfl | hlt
    · exact ⟨m, hm, hmkj⟩
    · have hle := Steps.le hR hmkj
      exact ⟨m + 1, by omega, k, hik, hmkj⟩

end Steps

end

/-! ### Functions on sets of positions -/

/-- Whether a function on sets of positions leads along a relation between positions. -/
def Leads (f : Nat → Nat) (R : Nat → Nat → Prop) : Prop :=
  ∀ starts j, (f starts).testBit j ↔ ∃ i, starts.testBit i ∧ R i j

namespace Leads

open Route

variable {f g : Nat → Nat} {R S : Nat → Nat → Prop}

theorem congr (hf : Leads f R) (h : ∀ i j, R i j ↔ S i j) : Leads f S := fun starts j =>
  (hf starts j).trans (exists_congr fun i => and_congr_right fun _ => h i j)

/-- One function after the other. -/
theorem comp (hf : Leads f R) (hg : Leads g S) :
    Leads (fun starts => g (f starts)) fun i j => ∃ k, R i k ∧ S k j := by
  intro starts j
  rw [hg]
  simp only [hf starts]
  exact ⟨fun ⟨k, ⟨i, hi, hik⟩, hkj⟩ => ⟨i, hi, k, hik, hkj⟩,
    fun ⟨i, hi, k, hik, hkj⟩ => ⟨k, ⟨i, hi, hik⟩, hkj⟩⟩

/-- Either function. -/
theorem or (hf : Leads f R) (hg : Leads g S) :
    Leads (fun starts => f starts ||| g starts) fun i j => R i j ∨ S i j := by
  intro starts j
  simp only [Nat.testBit_or, Bool.or_eq_true, hf starts, hg starts]
  rw [← exists_or]
  simp only [← and_or_left]

theorem stepTimes_succ (f : Nat → Nat) (n starts : Nat) :
    stepTimes f (n + 1) starts = stepTimes f n (f starts) := by
  rw [stepTimes]
  split
  · rename_i hfix
    rw [hfix]
    cases n with
    | zero => rfl
    | succ n => simp [stepTimes, hfix]
  · rfl

theorem stepTimes (hf : Leads f R) (n : Nat) : Leads (stepTimes f n) (Steps R n) := by
  induction n with
  | zero => exact fun starts j => by simp [Route.stepTimes, Steps]
  | succ n ih =>
    have hstep := hf.comp ih
    exact fun starts j => by rw [stepTimes_succ]; exact hstep starts j

/-- What was reached before the last round leads nowhere but to what has been reached. -/
theorem testBit_stepUpTo (hf : Leads f R) {n reached fresh : Nat}
    (hfresh : ∀ i, fresh.testBit i → reached.testBit i)
    (hclosed : ∀ i j, reached.testBit i → ¬fresh.testBit i → R i j → reached.testBit j) (j : Nat) :
    (stepUpTo f n reached fresh).testBit j ↔
      ∃ i, reached.testBit i ∧ ∃ m ≤ n, Steps R m i j := by
  induction n generalizing reached fresh with
  | zero => simp [stepUpTo, Steps]
  | succ n ih =>
    rw [stepUpTo]
    split
    · -- Nothing is new, so all that can be reached has been reached.
      rename_i hnone
      subst hnone
      have hstay : ∀ m i, reached.testBit i → Steps R m i j → reached.testBit j := by
        intro m
        induction m with
        | zero => exact fun i hi hij => hij ▸ hi
        | succ m ihm => exact fun i hi ⟨k, hik, hkj⟩ => ihm k (hclosed i k hi (by simp) hik) hkj
      exact ⟨fun hj => ⟨j, hj, 0, Nat.zero_le _, rfl⟩, fun ⟨i, hi, m, _, hij⟩ => hstay m i hi hij⟩
    · have hall (k : Nat) : (reached ||| f fresh).testBit k ↔
          reached.testBit k ∨ ∃ i, fresh.testBit i ∧ R i k := by
        rw [Nat.testBit_or, Bool.or_eq_true, hf]
      have hstep (i k : Nat) (hi : reached.testBit i) (hik : R i k) :
          (reached ||| f fresh).testBit k := by
        by_cases hif : fresh.testBit i
        · exact (hall k).mpr (.inr ⟨i, hif, hik⟩)
        · exact (hall k).mpr (.inl (hclosed i k hi hif hik))
      rw [ih]
      · constructor
        · rintro ⟨k, hk, m, hm, hkj⟩
          rcases (hall k).mp hk with hk | ⟨i, hi, hik⟩
          · exact ⟨k, hk, m, by omega, hkj⟩
          · exact ⟨i, hfresh i hi, m + 1, by omega, k, hik, hkj⟩
        · rintro ⟨i, hi, m, hm, hij⟩
          cases m with
          | zero => exact ⟨i, (hall i).mpr (.inl hi), 0, Nat.zero_le _, hij⟩
          | succ m =>
            obtain ⟨k, hik, hkj⟩ := hij
            exact ⟨k, hstep i k hi hik, m, by omega, hkj⟩
      · intro i hi
        rw [Nat.testBit_xor, Nat.testBit_or] at hi
        rw [Nat.testBit_or]
        grind
      · intro i k hi hif hik
        refine hstep i k ?_ hik
        rw [Nat.testBit_xor, hi] at hif
        simpa using hif

theorem stepUpTo (hf : Leads f R) (n : Nat) :
    Leads (fun starts => stepUpTo f n starts starts) fun i j => ∃ m ≤ n, Steps R m i j :=
  fun _ j => hf.testBit_stepUpTo (fun _ hi => hi) (fun _ _ hi hif _ => (hif hi).elim) j

/-- As many steps as there are positions are as good as any number. -/
theorem stepAnyTimes (hf : Leads f R) {n length : Nat} (hn : length ≤ n)
    (h : ∀ i j m, Steps R m i j → ∃ m ≤ length, Steps R m i j) :
    Leads (fun starts => Route.stepUpTo f n starts starts) fun i j => ∃ m, Steps R m i j :=
  (hf.stepUpTo n).congr fun i j => ⟨fun ⟨m, _, hm⟩ => ⟨m, hm⟩, fun ⟨m, hm⟩ => by
    obtain ⟨m, hle, hm⟩ := h i j m hm
    exact ⟨m, Nat.le_trans hle hn, hm⟩⟩

end Leads

/-! ### Matches -/

/-- The character in front of a position. -/
def charBefore (text : List Char) : Nat → Option Char
  | 0 => none
  | i + 1 => text[i]?

/-- Whether the part of a text between two positions matches. -/
def Pattern.Matches (text : List Char) : Pattern → Nat → Nat → Prop
  | .empty, i, j => i = j
  | .set s, i, j => j = i + 1 ∧ ∃ c, text[i]? = some c ∧ s.holds c = true
  | .anchor a, i, j => i = j ∧ i ≤ text.length ∧ a.holds (charBefore text i) text[i]? = true
  | .seq p q, i, j => ∃ k, p.Matches text i k ∧ q.Matches text k j
  | .alt p q, i, j => p.Matches text i j ∨ q.Matches text i j
  | .times p low high _, i, j =>
    ∃ n, low ≤ n ∧ (∀ h ∈ high, n ≤ max low h) ∧ Steps (p.Matches text) n i j
  | .group p, i, j => p.Matches text i j

namespace Pattern

variable {text : List Char} {p : Pattern} {i j : Nat}

theorem Matches.le (h : p.Matches text i j) : i ≤ j := by
  induction p generalizing i j with
  | empty => exact Nat.le_of_eq h
  | set s => exact h.1 ▸ Nat.le_succ i
  | anchor a => exact Nat.le_of_eq h.1
  | seq p q ihp ihq =>
    obtain ⟨k, hik, hkj⟩ := h
    exact Nat.le_trans (ihp hik) (ihq hkj)
  | alt p q ihp ihq => exact h.elim ihp ihq
  | times p low high greedy ih =>
    obtain ⟨n, -, -, hn⟩ := h
    exact hn.le fun _ _ => ih
  | group p ih => exact ih h

/-- A match that is not empty ends within the text. -/
theorem Matches.le_length (h : p.Matches text i j) (hij : i < j) : j ≤ text.length := by
  induction p generalizing i j with
  | empty => exact (Nat.ne_of_lt hij h).elim
  | set s =>
    obtain ⟨rfl, c, hc, -⟩ := h
    exact (List.getElem?_eq_some_iff.mp hc).1
  | anchor a => exact (Nat.ne_of_lt hij h.1).elim
  | seq p q ihp ihq =>
    obtain ⟨k, hik, hkj⟩ := h
    by_cases hk : k < j
    · exact ihq hkj hk
    · exact Nat.le_trans (Nat.not_lt.mp hk) (ihp hik (Nat.lt_of_lt_of_le hij (Nat.not_lt.mp hk)))
  | alt p q ihp ihq => exact h.elim (ihp · hij) (ihq · hij)
  | times p low high greedy ih =>
    obtain ⟨n, -, -, hn⟩ := h
    exact hn.le_length (fun _ _ => ih) hij
  | group p ih => exact ih h hij

/-- Two texts that look the same around a part of the first: `place` tells where its positions are
in the second. -/
structure SameAround (text text' : List Char) (place : Nat → Nat) (first last : Nat) : Prop where
  next : ∀ t, first ≤ t → t < last → place (t + 1) = place t + 1
  before : ∀ t, first ≤ t → t ≤ last → charBefore text' (place t) = charBefore text t
  behind : ∀ t, first ≤ t → t ≤ last → text'[place t]? = text[t]?
  within : ∀ t, first ≤ t → t ≤ last → t ≤ text.length → place t ≤ text'.length

/-- A match only depends on its characters and their neighbours. -/
theorem Matches.transfer {text' : List Char} {place : Nat → Nat} {first last : Nat}
    (hsame : SameAround text text' place first last) (h : p.Matches text i j) (hi : first ≤ i)
    (hj : j ≤ last) : p.Matches text' (place i) (place j) := by
  induction p generalizing i j with
  | empty => exact congrArg place h
  | set s =>
    obtain ⟨rfl, c, hc, hs⟩ := h
    exact ⟨hsame.next i hi hj, c, (hsame.behind i hi (by omega)).trans hc, hs⟩
  | anchor a =>
    obtain ⟨rfl, hlen, ha⟩ := h
    refine ⟨rfl, hsame.within i hi hj hlen, ?_⟩
    rwa [hsame.before i hi hj, hsame.behind i hi hj]
  | seq p q ihp ihq =>
    obtain ⟨k, hik, hkj⟩ := h
    exact ⟨place k, ihp hik hi (Nat.le_trans hkj.le hj), ihq hkj (Nat.le_trans hi hik.le) hj⟩
  | alt p q ihp ihq => exact h.imp (ihp · hi hj) (ihq · hi hj)
  | times p low high greedy ih =>
    obtain ⟨n, hlow, hhigh, hn⟩ := h
    refine ⟨n, hlow, hhigh, ?_⟩
    clear hlow hhigh
    induction n generalizing i with
    | zero => exact congrArg place hn
    | succ n ihn =>
      obtain ⟨k, hik, hkj⟩ := hn
      have hle := hkj.le fun _ _ => Matches.le
      exact ⟨place k, ih hik hi (Nat.le_trans hle hj), ihn (Nat.le_trans hi hik.le) hkj⟩
  | group p ih => exact ih h hi hj

/-! ### Sequences -/

theorem matches_joinParts_cons {ps : List Pattern} : (joinParts (p :: ps)).Matches text i j ↔
    ∃ k, p.Matches text i k ∧ (joinParts ps).Matches text k j := by
  cases ps with
  | nil => simp [joinParts, Matches]
  | cons q ps => rfl

theorem matches_joinParts_append {ps qs : List Pattern} :
    (joinParts (ps ++ qs)).Matches text i j ↔
      ∃ k, (joinParts ps).Matches text i k ∧ (joinParts qs).Matches text k j := by
  induction ps generalizing i with
  | nil => simp [joinParts, Matches]
  | cons p ps ih =>
    rw [List.cons_append, matches_joinParts_cons]
    simp only [ih, matches_joinParts_cons]
    exact ⟨fun ⟨l, hl, k, hk, hkj⟩ => ⟨k, ⟨l, hl, hk⟩, hkj⟩,
      fun ⟨k, ⟨l, hl, hk⟩, hkj⟩ => ⟨l, hl, k, hk, hkj⟩⟩

theorem matches_parts (p : Pattern) : (joinParts (parts p)).Matches text i j ↔
    p.Matches text i j := by
  induction p generalizing i j with
  | seq p q ihp ihq => simp only [parts, matches_joinParts_append, ihp, ihq, Matches]
  | _ => rfl

@[simp] theorem matches_sequence_nil : (sequence []).Matches text i j ↔ i = j := Iff.rfl

@[simp] theorem matches_sequence_cons {ps : List Pattern} : (sequence (p :: ps)).Matches text i j ↔
    ∃ k, p.Matches text i k ∧ (sequence ps).Matches text k j := by
  rw [sequence, List.flatMap_cons, matches_joinParts_append]
  simp only [matches_parts, sequence]

/-- Where a sequence matches, each of its parts does. -/
theorem exists_matches_of_mem {ps : List Pattern} (h : (sequence ps).Matches text i j)
    (hp : p ∈ ps) : ∃ k l, p.Matches text k l := by
  induction ps generalizing i with
  | nil => cases hp
  | cons q ps ih =>
    obtain ⟨k, hik, hkj⟩ := matches_sequence_cons.mp h
    rcases List.mem_cons.mp hp with rfl | hp
    · exact ⟨i, k, hik⟩
    · exact ih hkj hp

/-- Where a word matches, it stands. -/
theorem infix_of_matches_word {w : String} (h : (word false w).Matches text i j) :
    w.toList <:+: text := by
  have hfront (cs : List Char) (i : Nat)
      (h : (sequence (cs.map fun c => .set (.one c))).Matches text i j) : cs <+: text.drop i := by
    induction cs generalizing i with
    | nil => exact List.nil_prefix
    | cons c cs ih =>
      obtain ⟨k, ⟨rfl, d, hd, hc⟩, hrest⟩ := matches_sequence_cons.mp h
      obtain ⟨hi, rfl⟩ := List.getElem?_eq_some_iff.mp hd
      rw [CharSet.holds_one, beq_iff_eq] at hc
      rw [List.drop_eq_getElem_cons hi, hc]
      exact (List.prefix_cons_inj _).mpr (ih _ hrest)
  exact (hfront w.toList i h).isInfix.trans (List.drop_suffix i text).isInfix

/-! ### Rounds of a repetition -/

/-- Repeated matches need no more rounds than the text has characters. -/
theorem steps_shorten {n : Nat} (h : Steps (p.Matches text) n i j) :
    ∃ m ≤ text.length, Steps (p.Matches text) m i j := by
  obtain ⟨m, hm, hmij⟩ := h.shorten fun _ _ => Matches.le
  refine ⟨m, ?_, hmij⟩
  by_cases hij : i < j
  · have := h.le_length (fun _ _ => Matches.le_length) hij
    omega
  · omega

theorem steps_flip_shorten {n : Nat} (h : Steps (flip (p.Matches text)) n j i) :
    ∃ m ≤ text.length, Steps (flip (p.Matches text)) m j i := by
  simp only [steps_flip] at h ⊢
  exact steps_shorten h

/-- Rounds of a repetition: those that must be made, and some more. -/
theorem matches_times {low : Nat} {high : Option Nat} {greedy : Bool} :
    (times p low high greedy).Matches text i j ↔ ∃ k, Steps (p.Matches text) low i k ∧
      ∃ m, (∀ h ∈ high, m ≤ h - low) ∧ Steps (p.Matches text) m k j := by
  constructor
  · rintro ⟨n, hlow, hhigh, hn⟩
    obtain ⟨m, rfl⟩ := Nat.exists_eq_add_of_le hlow
    obtain ⟨k, hik, hkj⟩ := steps_add.mp hn
    exact ⟨k, hik, m, fun h hh => by have := hhigh h hh; omega, hkj⟩
  · rintro ⟨k, hik, m, hm, hkj⟩
    refine ⟨low + m, Nat.le_add_right .., fun h hh => ?_, steps_add.mpr ⟨k, hik, hkj⟩⟩
    have := hm h hh
    omega

end Pattern

/-! ### The matcher -/

theorem testBit_bits (bs : List Bool) (i : Nat) : (bits bs).testBit i = bs[i]?.getD false := by
  induction bs generalizing i with
  | nil => simp [bits]
  | cons b bs ih =>
    cases i with
    | zero => cases b <;> simp [bits, Nat.add_mod]
    | succ i =>
      have hhalf : (2 * bits bs + b.toNat) / 2 = bits bs := by
        have := b.toNat_lt
        omega
      rw [bits, Nat.testBit_succ, hhalf, ih, List.getElem?_cons_succ]

theorem getElem?_positionsWhere (holds : Option Char → Option Char → Bool) (before : Option Char)
    (text : List Char) (i : Nat) :
    (positionsWhere holds before text)[i]? =
      if i ≤ text.length then
        some (holds (if i = 0 then before else charBefore text i) text[i]?)
      else none := by
  induction text generalizing before i with
  | nil => cases i <;> simp [positionsWhere]
  | cons c text ih =>
    cases i with
    | zero => simp [positionsWhere]
    | succ i =>
      rw [positionsWhere, List.getElem?_cons_succ, ih]
      cases i <;> simp [charBefore]

/-- The set of all positions of a text. -/
theorem testBit_allPositions {length i : Nat} :
    (1 <<< (length + 1) - 1).testBit i ↔ i ≤ length := by
  rw [Nat.one_shiftLeft, Nat.testBit_two_pow_sub_one, decide_eq_true_eq, Nat.lt_succ_iff]

namespace Pattern

variable {text : List Char} {i : Nat}

theorem testBit_setOnText (s : CharSet) :
    (bits (text.map s.holds)).testBit i ↔ ∃ c, text[i]? = some c ∧ s.holds c = true := by
  rw [testBit_bits, List.getElem?_map]
  cases text[i]? <;> simp

theorem testBit_anchorOnText (a : Anchor) :
    (bits (positionsWhere a.holds none text)).testBit i ↔
      i ≤ text.length ∧ a.holds (charBefore text i) text[i]? = true := by
  have hbefore : (if i = 0 then none else charBefore text i) = charBefore text i := by
    cases i <;> rfl
  rw [testBit_bits, getElem?_positionsWhere, hbefore]
  split <;> grind

/-- The matcher follows the matches. -/
theorem reach_leads (text : List Char) (p : Pattern) :
    Leads ((p.onText text).reach (text.length + 1)) (p.Matches text) := by
  induction p with
  | empty => exact fun starts j => by simp [onText, Route.reach, Matches]
  | set s =>
    intro starts j
    simp only [onText, Route.reach, Matches, Nat.testBit_shiftLeft, Bool.and_eq_true,
      decide_eq_true_eq, Nat.testBit_and, testBit_setOnText]
    constructor
    · rintro ⟨hj, hstart, hc⟩
      exact ⟨j - 1, hstart, by omega, hc⟩
    · rintro ⟨i, hstart, rfl, hc⟩
      exact ⟨by omega, hstart, hc⟩
  | anchor a =>
    intro starts j
    simp only [onText, Route.reach, Matches, Nat.testBit_and, Bool.and_eq_true,
      testBit_anchorOnText]
    constructor
    · rintro ⟨hstart, ha⟩
      exact ⟨j, hstart, rfl, ha⟩
    · rintro ⟨i, hstart, rfl, ha⟩
      exact ⟨hstart, ha⟩
  | seq p q ihp ihq => exact ihp.comp ihq
  | alt p q ihp ihq => exact ihp.or ihq
  | times p low high greedy ih =>
    refine Leads.congr (R := fun i j => ∃ k, Steps (p.Matches text) low i k ∧
      ∃ m, (∀ h ∈ high, m ≤ h - low) ∧ Steps (p.Matches text) m k j) ?_
        fun i j => matches_times.symm
    cases high with
    | some h =>
      have hmore : Leads _ fun k j => ∃ m, (∀ h' ∈ some h, m ≤ h' - low) ∧
          Steps (p.Matches text) m k j :=
        (ih.stepUpTo (h - low)).congr fun i j => by simp
      exact (ih.stepTimes low).comp hmore
    | none =>
      have hmore : Leads _ fun k j => ∃ m, (∀ h' ∈ none, m ≤ h' - low) ∧
          Steps (p.Matches text) m k j :=
        (ih.stepAnyTimes (Nat.le_succ _) fun _ _ _ => steps_shorten).congr fun i j => by simp
      exact (ih.stepTimes low).comp hmore
  | group p ih => exact ih

/-- **The matcher tells whether some part of a text matches.** -/
theorem isMatch_iff {p : Pattern} {s : String} :
    p.isMatch s = true ↔ ∃ i j, i ≤ s.toList.length ∧ p.Matches s.toList i j := by
  have hreach (j : Nat) : ((p.onText s.toList).reach (s.toList.length + 1)
      (1 <<< (s.toList.length + 1) - 1)).testBit j ↔
        ∃ i, i ≤ s.toList.length ∧ p.Matches s.toList i j := by
    rw [reach_leads s.toList p]
    exact exists_congr fun i => and_congr_left fun _ => testBit_allPositions
  simp only [isMatch, bne_iff_ne]
  constructor
  · intro hne
    obtain ⟨j, hj⟩ := Nat.exists_testBit_of_ne_zero hne
    obtain ⟨i, hij⟩ := (hreach j).mp hj
    exact ⟨i, j, hij⟩
  · rintro ⟨i, j, hij⟩ hzero
    have hj := (hreach j).mpr ⟨i, hij⟩
    rw [hzero, Nat.zero_testBit] at hj
    cases hj

/-- A sequence with a word does not match where the word is not there. -/
theorem isMatch_sequence_of_not_infix {ps : List Pattern} (w : String) {s : String}
    (hw : word false w ∈ ps) (h : ¬w.toList <:+: s.toList) : (sequence ps).isMatch s = false := by
  rw [← Bool.not_eq_true, isMatch_iff]
  rintro ⟨i, j, -, hij⟩
  obtain ⟨k, l, hkl⟩ := exists_matches_of_mem hij hw
  exact h (infix_of_matches_word hkl)

end Pattern

end PingPost
