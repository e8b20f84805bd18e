import Mathlib.Data.List.TakeWhile
import PingPost.Decimal.Text

/-!
What a free-standing numeral is.

A numeral has a sign or none, digits with at most one point, and an exponent or none
(`Float64.Numeral`). A text is read as a number just when it is a numeral, and then as its value
(`Float64.ofNumeral?_eq_some_iff`). So the words for an infinity and for what is no number, which
are no numerals, are not read, and neither is a numeral whose value is out of range.
-/

namespace PingPost

namespace Text

theorem takeDigits_append {ds rest : List Char} (hds : ∀ c ∈ ds, c.isDigit = true)
    (hrest : ∀ c ∈ rest.head?, c.isDigit = false) : takeDigits (ds ++ rest) = (ds, rest) := by
  rw [takeDigits, List.takeWhile_append_of_pos hds, List.dropWhile_append_of_pos hds]
  cases rest with
  | nil => simp
  | cons c rest => simp [hrest c rfl]

/-- A natural number is digits, perhaps behind a plus sign. -/
theorem natBelow?_eq_some_iff {bound n : Nat} {cs : List Char} : natBelow? bound cs = some n ↔
    ∃ ds, (cs = ds ∨ cs = '+' :: ds) ∧ ds ≠ [] ∧ (∀ c ∈ ds, c.isDigit = true) ∧
      digitsValue ds = n ∧ n < bound := by
  have hread (ds : List Char) : (if ds ≠ [] ∧ ds.all Char.isDigit = true then
      (some (digitsValue ds)).filter (· < bound) else none) = some n ↔
        ds ≠ [] ∧ (∀ c ∈ ds, c.isDigit = true) ∧ digitsValue ds = n ∧ n < bound := by
    rw [Option.ite_none_right_eq_some, Option.filter_eq_some_iff, List.all_eq_true, and_assoc,
      Option.some_inj, decide_eq_true_eq]
  unfold natBelow?
  dsimp only
  rw [hread]
  split
  · rename_i rest
    constructor
    · exact fun h => ⟨rest, .inr rfl, h⟩
    · rintro ⟨ds, rfl | heq, hne, hdigit, h⟩
      · cases hdigit '+' List.mem_cons_self
      · cases heq
        exact ⟨hne, hdigit, h⟩
  · rename_i hplus
    constructor
    · exact fun h => ⟨cs, .inl rfl, h⟩
    · rintro ⟨ds, rfl | heq, h⟩
      · exact h
      · exact (hplus ds heq).elim

end Text

namespace Float64

open Text

/-- The sign of a number, which may be left out. -/
inductive SignMark where
  | absent
  | plus
  | minus

def SignMark.chars : SignMark → List Char
  | .absent => []
  | .plus => ['+']
  | .minus => ['-']

def SignMark.isMinus : SignMark → Bool
  | .minus => true
  | _ => false

/-- A power of ten behind a numeral. -/
structure Exponent where
  mark : Char
  sign : SignMark
  digits : List Char
  mark_eq : mark = 'e' ∨ mark = 'E'
  ne_nil : digits ≠ []
  isDigit : ∀ c ∈ digits, c.isDigit = true

namespace Exponent

def chars (e : Exponent) : List Char := e.mark :: (e.sign.chars ++ e.digits)

def value (e : Exponent) : Int :=
  if e.sign.isMinus then -(digitsValue e.digits : Int) else digitsValue e.digits

end Exponent

/-- A numeral without its sign: digits, perhaps with a point and digits behind it, of which at
least one is there, and perhaps an exponent. -/
structure Magnitude where
  whole : List Char
  fraction : Option (List Char)
  exponent : Option Exponent
  isDigit : ∀ c ∈ whole ++ fraction.getD [], c.isDigit = true
  ne_nil : ¬(whole = [] ∧ fraction.getD [] = [])

namespace Magnitude

def chars (m : Magnitude) : List Char :=
  m.whole ++ (m.fraction.elim [] ('.' :: ·) ++ m.exponent.elim [] Exponent.chars)

/-- The binary64 number of a magnitude with a sign. -/
def value (negative : Bool) (m : Magnitude) : Float :=
  ofDecimal negative (digitsValue (m.whole ++ m.fraction.getD []))
    (m.exponent.elim 0 Exponent.value - (m.fraction.getD []).length)

end Magnitude

/-- A numeral: a magnitude behind a sign, or behind none. -/
structure Numeral extends Magnitude where
  sign : SignMark

namespace Numeral

def chars (n : Numeral) : List Char := n.sign.chars ++ n.toMagnitude.chars

/-- The binary64 number of a numeral. -/
def value (n : Numeral) : Float := n.toMagnitude.value n.sign.isMinus

end Numeral

variable {cs ds rest : List Char} {negative : Bool} {x : Float} {k : Int} {s : SignMark}
  {fraction : Option (List Char)} {mark : Char}

/-! ### Signs -/

/-- No sign stands in front. -/
def Unsigned (cs : List Char) : Prop := ∀ c ∈ cs.head?, c ≠ '-' ∧ c ≠ '+'

theorem unsigned_of_isDigit (h : ∀ c ∈ ds, c.isDigit = true) : Unsigned ds := by
  intro c hc
  have hdigit := h c (List.mem_of_mem_head? hc)
  constructor <;> rintro rfl <;> cases hdigit

theorem exists_sign (cs : List Char) :
    ∃ s : SignMark, ∃ ds, (s = .absent → Unsigned ds) ∧ s.chars ++ ds = cs := by
  match cs with
  | [] => exact ⟨.absent, [], by simp [Unsigned], rfl⟩
  | c :: cs =>
    by_cases hminus : c = '-'
    · exact ⟨.minus, cs, nofun, by rw [hminus]; rfl⟩
    by_cases hplus : c = '+'
    · exact ⟨.plus, cs, nofun, by rw [hplus]; rfl⟩
    · exact ⟨.absent, c :: cs, by simp [Unsigned, hminus, hplus], rfl⟩

/-! ### Exponents -/

theorem exponent?_sign (hmark : mark = 'e' ∨ mark = 'E') (h : s = .absent → Unsigned ds) :
    exponent? (mark :: (s.chars ++ ds)) = if ds ≠ [] ∧ ds.all Char.isDigit = true then
      some (if s.isMinus = true then -(digitsValue ds : Int) else digitsValue ds) else none := by
  unfold exponent?
  dsimp only
  rw [if_pos hmark]
  cases s with
  | minus => rfl
  | plus => rfl
  | absent =>
    cases ds with
    | nil => rfl
    | cons d ds =>
      obtain ⟨hminus, hplus⟩ := h rfl d rfl
      simp [SignMark.chars, SignMark.isMinus, hminus, hplus]

theorem exponent?_eq_some_iff : exponent? cs = some k ↔
    ∃ e : Option Exponent, e.elim [] Exponent.chars = cs ∧ e.elim 0 Exponent.value = k := by
  constructor
  · intro h
    cases cs with
    | nil => exact ⟨none, rfl, Option.some.inj h⟩
    | cons mark rest =>
      by_cases hmark : mark = 'e' ∨ mark = 'E'
      case neg => simp [exponent?, hmark] at h
      obtain ⟨s, ds, hsign, rfl⟩ := exists_sign rest
      rw [exponent?_sign hmark hsign] at h
      split at h
      · rename_i hdigits
        obtain ⟨hne, hall⟩ := hdigits
        exact ⟨some ⟨mark, s, ds, hmark, hne, List.all_eq_true.mp hall⟩, rfl, Option.some.inj h⟩
      · cases h
  · rintro ⟨_ | e, rfl, rfl⟩
    · rfl
    · rw [Option.elim_some, Exponent.chars,
        exponent?_sign e.mark_eq fun _ => unsigned_of_isDigit e.isDigit,
        if_pos ⟨e.ne_nil, List.all_eq_true.mpr e.isDigit⟩]
      rfl

/-! ### Magnitudes -/

theorem magnitude?_point (hds : ∀ c ∈ ds ++ fraction.getD [], c.isDigit = true)
    (hrest : ∀ c ∈ rest.head?, c.isDigit = false ∧ (fraction = none → c ≠ '.')) :
    magnitude? negative (ds ++ (fraction.elim [] ('.' :: ·) ++ rest)) =
      if ds = [] ∧ fraction.getD [] = [] then none else (exponent? rest).map fun e =>
        ofDecimal negative (digitsValue (ds ++ fraction.getD []))
          (e - (fraction.getD []).length) := by
  obtain ⟨hwhole, hplaces⟩ := List.forall_mem_append.mp hds
  have hend : ∀ c ∈ rest.head?, c.isDigit = false := fun c hc => (hrest c hc).1
  cases fraction with
  | some places =>
    have hpoint : takeDigits (ds ++ '.' :: (places ++ rest)) = (ds, '.' :: (places ++ rest)) :=
      takeDigits_append hwhole (by simp)
    have hfraction : takeDigits (places ++ rest) = (places, rest) := takeDigits_append hplaces hend
    simp only [magnitude?, Option.elim_some, List.cons_append, hpoint, hfraction, Option.getD_some]
  | none =>
    have hnone : takeDigits (ds ++ rest) = (ds, rest) := takeDigits_append hwhole hend
    simp only [magnitude?, Option.elim_none, List.nil_append, hnone, Option.getD_none]
    cases rest with
    | nil => simp
    | cons c rest => simp [(hrest c rfl).2 rfl]

theorem exists_digits (cs : List Char) : ∃ ds rest, (∀ c ∈ ds, c.isDigit = true) ∧
    (∀ c ∈ rest.head?, c.isDigit = false) ∧ ds ++ rest = cs := by
  refine ⟨cs.takeWhile Char.isDigit, cs.dropWhile Char.isDigit, fun c => List.mem_takeWhile_imp,
    fun c hc => ?_, List.takeWhile_append_dropWhile⟩
  have hhead := List.head?_dropWhile_not Char.isDigit cs
  rw [hc] at hhead
  exact hhead

theorem exists_point (cs : List Char) : ∃ ds fraction rest,
    (∀ c ∈ ds ++ fraction.getD [], c.isDigit = true) ∧
    (∀ c ∈ rest.head?, c.isDigit = false ∧ (fraction = none → c ≠ '.')) ∧
    ds ++ (fraction.elim [] ('.' :: ·) ++ rest) = cs := by
  obtain ⟨ds, rest, hds, hrest, rfl⟩ := exists_digits cs
  by_cases hpoint : rest.head? = some '.'
  · obtain ⟨rest, rfl⟩ := List.head?_eq_some_iff.mp hpoint
    obtain ⟨places, rest, hplaces, hend, rfl⟩ := exists_digits rest
    exact ⟨ds, some places, rest, List.forall_mem_append.mpr ⟨hds, hplaces⟩,
      fun c hc => ⟨hend c hc, nofun⟩, rfl⟩
  · refine ⟨ds, none, rest, by simpa using hds, fun c hc => ⟨hrest c hc, fun _ => ?_⟩, rfl⟩
    rintro rfl
    exact hpoint hc

theorem head?_exponent (e : Option Exponent) :
    ∀ c ∈ (e.elim [] Exponent.chars).head?, c.isDigit = false ∧ c ≠ '.' := by
  rcases e with _ | e
  · nofun
  · intro c hc
    cases hc
    rcases e.mark_eq with hmark | hmark <;> rw [hmark] <;> decide

theorem magnitude?_eq_some_iff : magnitude? negative cs = some x ↔
    ∃ m : Magnitude, m.chars = cs ∧ m.value negative = x := by
  constructor
  · intro h
    obtain ⟨ds, fraction, rest, hds, hrest, rfl⟩ := exists_point cs
    rw [magnitude?_point hds hrest] at h
    split at h
    · cases h
    · rename_i hne
      obtain ⟨k, hk, rfl⟩ := Option.map_eq_some_iff.mp h
      obtain ⟨e, rfl, rfl⟩ := exponent?_eq_some_iff.mp hk
      exact ⟨⟨ds, fraction, e, hds, hne⟩, rfl, rfl⟩
  · rintro ⟨m, rfl, rfl⟩
    rw [Magnitude.chars, magnitude?_point m.isDigit, if_neg m.ne_nil,
      exponent?_eq_some_iff.mpr ⟨m.exponent, rfl, rfl⟩]
    · rfl
    · exact fun c hc => (head?_exponent m.exponent c hc).imp_right fun hne _ => hne

/-! ### Numerals -/

theorem Magnitude.unsigned (m : Magnitude) : Unsigned m.chars := by
  obtain ⟨hwhole, -⟩ := List.forall_mem_append.mp m.isDigit
  intro c hc
  cases heq : m.whole with
  | cons d ds =>
    rw [Magnitude.chars, heq] at hc
    cases hc
    exact unsigned_of_isDigit hwhole c (by rw [heq]; rfl)
  | nil =>
    -- Without digits in front there is a point.
    cases hfraction : m.fraction with
    | none => exact (m.ne_nil ⟨heq, by rw [hfraction]; rfl⟩).elim
    | some places =>
      rw [Magnitude.chars, heq, hfraction] at hc
      cases hc
      decide

theorem ofNumeral?_sign (h : s = .absent → Unsigned ds) :
    ofNumeral? (s.chars ++ ds) = (magnitude? s.isMinus ds).filter Float.isFinite := by
  cases s with
  | minus => rfl
  | plus => rfl
  | absent =>
    cases ds with
    | nil => rfl
    | cons d ds =>
      obtain ⟨hminus, hplus⟩ := h rfl d rfl
      simp [ofNumeral?, SignMark.chars, SignMark.isMinus, hminus, hplus]

/-- **A text is read as a number just when it is a numeral.** -/
theorem ofNumeral?_eq_some_iff : ofNumeral? cs = some x ↔
    ∃ n : Numeral, n.chars = cs ∧ n.value = x ∧ x.isFinite = true := by
  constructor
  · intro h
    obtain ⟨s, ds, hsign, rfl⟩ := exists_sign cs
    rw [ofNumeral?_sign hsign, Option.filter_eq_some_iff, magnitude?_eq_some_iff] at h
    obtain ⟨⟨m, rfl, rfl⟩, hfinite⟩ := h
    exact ⟨⟨m, s⟩, rfl, rfl, hfinite⟩
  · rintro ⟨n, rfl, rfl, hfinite⟩
    rw [Numeral.chars, ofNumeral?_sign fun _ => n.unsigned, Option.filter_eq_some_iff,
      magnitude?_eq_some_iff]
    exact ⟨⟨n.toMagnitude, rfl, rfl⟩, hfinite⟩

end Float64

end PingPost
