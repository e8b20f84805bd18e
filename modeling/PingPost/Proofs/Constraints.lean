import Mathlib.Data.List.Basic
import PingPost.Validation.Rule

/-!
Rules as conjunctions.

A rule has up to seven constraints, which are looked at in a fixed order (`Constraint.order`). A
value passes the rule just when it passes every one of them alone (`Rule.only`), what each one asks
being said in `Rule.Asks`, and otherwise the complaint is that of the first one it breaks
(`Rule.check_conjunction`). In particular a constraint more never lets a value pass that was
turned away without it.
-/

namespace PingPost

/-- The constraints that a rule may have. -/
inductive Constraint where
  | kind
  | minLength
  | maxLength
  | min
  | max
  | pattern
  | allowed
  deriving DecidableEq

/-- The order in which constraints are looked at. -/
def Constraint.order : List Constraint :=
  [.kind, .minLength, .maxLength, .min, .max, .pattern, .allowed]

theorem Constraint.mem_order (c : Constraint) : c ∈ order := by
  cases c <;> decide

namespace Rule

open Constraint

variable {r : Rule} {field : String} {v : Json} {c : Constraint}

/-- The rule that asks nothing. -/
def unconstrained : Rule := ⟨none, none, none, none, none, none, none⟩

/-- Whether a rule has a constraint. -/
def has (r : Rule) : Constraint → Bool
  | .kind => r.kind.isSome
  | .minLength => r.minLength.isSome
  | .maxLength => r.maxLength.isSome
  | .min => r.min.isSome
  | .max => r.max.isSome
  | .pattern => r.pattern.isSome
  | .allowed => r.allowed.isSome

/-- The rule with one of its constraints and no other. -/
def only (r : Rule) : Constraint → Rule
  | .kind => { unconstrained with kind := r.kind }
  | .minLength => { unconstrained with minLength := r.minLength }
  | .maxLength => { unconstrained with maxLength := r.maxLength }
  | .min => { unconstrained with min := r.min }
  | .max => { unconstrained with max := r.max }
  | .pattern => { unconstrained with pattern := r.pattern }
  | .allowed => { unconstrained with allowed := r.allowed }

/-- A rule has every constraint of another one. -/
def Extends (s r : Rule) : Prop := ∀ c, r.has c = true → s.only c = r.only c

/-- What a constraint of a rule asks of a value. Where a number is asked for, a value without one
does not do, and neither does any value where the pattern cannot be read. -/
def Asks (r : Rule) (v : Json) : Constraint → Prop
  | .kind => ∀ kind ∈ r.kind, kind.holds v = true
  | .minLength => ∀ least ∈ r.minLength, least ≤ v.asText.length
  | .maxLength => ∀ most ∈ r.maxLength, v.asText.length ≤ most
  | .min => ∀ least ∈ r.min, ∃ x, v.asNumber? = some x ∧ ¬x < least.val
  | .max => ∀ most ∈ r.max, ∃ x, v.asNumber? = some x ∧ ¬most.val < x
  | .pattern => ∀ text ∈ r.pattern, ∃ p, Pattern.ofText? text = some p ∧ p.isMatch v.asText = true
  | .allowed => ∀ candidates ∈ r.allowed, ∃ candidate ∈ candidates, isAllowed v candidate = true

/-- What is wrong with a value by one constraint. -/
def violation? (r : Rule) (v : Json) : Constraint → Option Violation
  | .kind => r.kindViolation? v
  | .minLength => r.minLengthViolation? v
  | .maxLength => r.maxLengthViolation? v
  | .min => r.minViolation? v
  | .max => r.maxViolation? v
  | .pattern => r.patternViolation? v
  | .allowed => r.allowedViolation? v

theorem violations_eq : r.violations v = order.filterMap (r.violation? v) := rfl

/-- Alone, a constraint finds the fault that it finds among the others. -/
theorem violation?_only (c' : Constraint) :
    (r.only c).violation? v c' = if c' = c then r.violation? v c else none := by
  cases c <;> cases c' <;> rfl

theorem violation?_eq_none_iff : r.violation? v c = none ↔ r.Asks v c := by
  cases c with
  | kind => simp [violation?, kindViolation?, Asks]
  | minLength => simp [violation?, minLengthViolation?, Asks]
  | maxLength => simp [violation?, maxLengthViolation?, Asks]
  | min =>
    simp only [violation?, minViolation?, Asks, Option.bind_eq_none_iff]
    cases v.asNumber? <;> simp
  | max =>
    simp only [violation?, maxViolation?, Asks, Option.bind_eq_none_iff]
    cases v.asNumber? <;> simp
  | pattern =>
    simp only [violation?, patternViolation?, Asks, Option.bind_eq_none_iff]
    refine forall₂_congr fun text _ => ?_
    cases Pattern.ofText? text <;> simp
  | allowed => simp [violation?, allowedViolation?, Asks]

/-- A constraint that is not there asks nothing. -/
theorem asks_of_not_has (h : r.has c = false) : r.Asks v c := by
  cases c <;> simp_all [has, Asks]

/-! ### Reports -/

theorem check_eq_ok_iff : r.check field v = .ok () ↔ ∀ c, r.Asks v c := by
  have hnil : r.check field v = .ok () ↔ r.violations v = [] := by
    unfold check
    cases r.violations v <;> simp
  rw [hnil, violations_eq, List.filterMap_eq_nil_iff]
  simp only [violation?_eq_none_iff]
  exact ⟨fun h c => h c c.mem_order, fun h c _ => h c⟩

/-- The first fault is reported, with the name of the field. -/
theorem check_eq_error_iff {e : FieldError} :
    r.check field v = .error e ↔
      ∃ violation, order.findSome? (r.violation? v) = some violation ∧
        e = ⟨field, .breaks violation⟩ := by
  rw [← List.head?_filterMap, ← violations_eq]
  unfold check
  cases r.violations v <;> simp [eq_comm]

theorem check_only_eq_ok_iff : (r.only c).check field v = .ok () ↔ r.Asks v c := by
  simp only [check_eq_ok_iff, ← violation?_eq_none_iff, violation?_only]
  refine ⟨fun h => ?_, fun h c' => ?_⟩
  · simpa using h c
  · rw [h, ite_self]

theorem check_only_eq_error_iff {e : FieldError} :
    (r.only c).check field v = .error e ↔
      ∃ violation, r.violation? v c = some violation ∧ e = ⟨field, .breaks violation⟩ := by
  have hfirst : order.findSome? ((r.only c).violation? v) = r.violation? v c := by
    cases hfault : r.violation? v c <;> cases c <;> simp [order, violation?_only, hfault]
  rw [check_eq_error_iff, hfirst]

/-- **A rule is the conjunction of its constraints**, and of those that are broken the first one is
reported. -/
theorem check_conjunction (r : Rule) (field : String) (v : Json) :
    (r.check field v = .ok () ↔ ∀ c, r.has c = true → (r.only c).check field v = .ok ()) ∧
    (∀ c, (r.only c).check field v = .ok () ↔ r.Asks v c) ∧
    (∀ s : Rule, s.Extends r → r.check field v ≠ .ok () → s.check field v ≠ .ok ()) ∧
    ∀ e, r.check field v = .error e ↔
      ∃ before c after, order = before ++ c :: after ∧ (r.only c).check field v = .error e ∧
        ∀ c' ∈ before, (r.only c').check field v = .ok () := by
  have hparts (r : Rule) :
      r.check field v = .ok () ↔ ∀ c, r.has c = true → (r.only c).check field v = .ok () := by
    simp only [check_eq_ok_iff (r := r), check_only_eq_ok_iff]
    refine forall_congr' fun c => ⟨fun h _ => h, fun h => ?_⟩
    cases hhas : r.has c with
    | true => exact h hhas
    | false => exact asks_of_not_has hhas
  refine ⟨hparts r, fun c => check_only_eq_ok_iff, fun s hextends hrefused hpassed => ?_,
    fun e => ?_⟩
  · refine hrefused ((hparts r).mpr fun c hhas => ?_)
    rw [← hextends c hhas, check_only_eq_ok_iff]
    exact check_eq_ok_iff.mp hpassed c
  · simp only [check_eq_error_iff (r := r), check_only_eq_error_iff, check_only_eq_ok_iff,
      ← violation?_eq_none_iff, List.findSome?_eq_some_iff]
    constructor
    · rintro ⟨violation, ⟨before, c, after, horder, hfault, hbefore⟩, rfl⟩
      exact ⟨before, c, after, horder, ⟨violation, hfault, rfl⟩, hbefore⟩
    · rintro ⟨before, c, after, horder, ⟨violation, hfault, rfl⟩, hbefore⟩
      exact ⟨violation, ⟨before, c, after, horder, hfault, hbefore⟩, rfl⟩

/-- At most nine rooms, in the form of a pattern that cannot be read. -/
def rooms : Rule := { unconstrained with max := some ⟨9, by decide⟩, pattern := some "[" }

theorem check_conjunction_sample :
    let longer := { rooms with minLength := some 2 }
    longer.Extends rooms ∧ longer.check "rooms" (.text "many") ≠ .ok () ∧
      (rooms.only .pattern).check "rooms" (.int 3) ≠ .ok () ∧
      rooms.check "rooms" (.text "many") = .error ⟨"rooms", .breaks (.notNumeric "many")⟩ := by
  intro longer
  have hextends : longer.Extends rooms := fun c hhas => by
    cases c with
    | minLength => cases hhas
    | _ => rfl
  have hmax : (rooms.only .max).check "rooms" (.text "many") =
      .error ⟨"rooms", .breaks (.notNumeric "many")⟩ := by decide
  have hbefore : ∀ c ∈ [Constraint.kind, .minLength, .maxLength, .min],
      (rooms.only c).check "rooms" (.text "many") = .ok () := by decide
  have herror := ((check_conjunction rooms "rooms" (.text "many")).2.2.2 _).mpr
    ⟨_, .max, [.pattern, .allowed], rfl, hmax, hbefore⟩
  have hrefused : rooms.check "rooms" (.text "many") ≠ .ok () := by
    rw [herror]
    simp
  refine ⟨hextends, (check_conjunction rooms "rooms" _).2.2.1 longer hextends hrefused, ?_, herror⟩
  rw [ne_eq, (check_conjunction rooms "rooms" (.int 3)).2.1 .pattern]
  intro hasks
  obtain ⟨p, hp, -⟩ := hasks "[" rfl
  have hnone : Pattern.ofText? "[" = none := by decide
  cases hnone.symm.trans hp

end Rule

end PingPost
