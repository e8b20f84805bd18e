import PingPost.Proofs.Arithmetic
import PingPost.Proofs.Numerals
import PingPost.Proofs.Paths
import PingPost.Vocabulary.Reading

/-!
The amount that an answer names.

A path leads to a field that has the whole of it as its key, or else goes down its segments, into
fields of objects and items of lists (`Json.LeadsTo`). A value is a number, or a text that is a
numeral but for dollar signs, commas and spaces (`Json.NumberOf`). The amount of an answer is the
first positive number to which one of the paths leads (`Vocabulary.amountAt_eq_first`): paths that
lead nowhere, to something else or to a number that is not positive do not count, wherever they
stand in the list.
-/

namespace PingPost

namespace Json

open Text

/-! ### Where a path leads -/

/-- A segment is the number of an item. -/
def IsIndex (segment : String) (i : Nat) : Prop :=
  ∃ ds, (segment.toList = ds ∨ segment.toList = '+' :: ds) ∧ ds ≠ [] ∧
    (∀ c ∈ ds, c.isDigit = true) ∧ digitsValue ds = i ∧ i < 2 ^ 64

/-- What is reached from a value by segments, one level down for each. -/
inductive Reaches : Json → List String → Json → Prop
  | here (v : Json) : Reaches v [] v
  | field {fields : Fields} {segment : String} {rest : List String} {v w : Json}
    (hfield : fields.get? segment = some v) (hrest : Reaches v rest w) :
    Reaches (.object fields) (segment :: rest) w
  | item {items : List Json} {segment : String} {rest : List String} {i : Nat} {v w : Json}
    (hindex : IsIndex segment i) (hitem : items[i]? = some v) (hrest : Reaches v rest w) :
    Reaches (.list items) (segment :: rest) w

/-- What a path leads to: a field that has the whole path as its key or, without such a field, what
is reached by the pieces between its dots. -/
inductive LeadsTo : Json → String → Json → Prop
  | whole {fields : Fields} {path : String} {v : Json} (hfield : fields.get? path = some v) :
    LeadsTo (.object fields) path v
  | pieces {v w : Json} {path : String} {segments : List String}
    (hwhole : ∀ fields : Fields, v = .object fields → fields.get? path = none)
    (hsplits : Splits '.' path.toList (segments.map String.toList))
    (hreaches : Reaches v segments w) : LeadsTo v path w

variable {v w : Json} {path segment : String} {i : Nat} {x : Float}

theorem index?_eq_some_iff : index? segment = some i ↔ IsIndex segment i :=
  natBelow?_eq_some_iff

theorem walk?_eq_some_iff {ss : List String} : v.walk? ss = some w ↔ Reaches v ss w := by
  induction ss generalizing v with
  | nil =>
    constructor
    · intro h
      obtain rfl := Option.some.inj h
      exact .here v
    · rintro ⟨⟩
      rfl
  | cons segment ss ih =>
    rw [walk?, Option.bind_eq_some_iff]
    simp only [ih]
    constructor
    · rintro ⟨u, hchild, hrest⟩
      cases v with
      | object fields => exact .field hchild hrest
      | list items =>
        obtain ⟨i, hindex, hitem⟩ := Option.bind_eq_some_iff.mp hchild
        exact .item (index?_eq_some_iff.mp hindex) hitem hrest
      | _ => cases hchild
    · rintro (_ | ⟨hfield, hrest⟩ | ⟨hindex, hitem, hrest⟩)
      · exact ⟨_, hfield, hrest⟩
      · exact ⟨_, Option.bind_eq_some_iff.mpr ⟨_, index?_eq_some_iff.mpr hindex, hitem⟩, hrest⟩

theorem splits_segments {ss : List String} :
    Splits '.' path.toList (ss.map String.toList) ↔ segments path = ss := by
  rw [splits_iff, segments]
  constructor
  · intro h
    simp [h, Function.comp_def]
  · rintro rfl
    simp [Function.comp_def]

/-- **What is found at a path is what the path leads to.** -/
theorem lookup?_eq_some_iff : v.lookup? path = some w ↔ LeadsTo v path w := by
  have hpieces (h : ∀ fields : Fields, v = .object fields → fields.get? path = none) :
      LeadsTo v path w ↔ v.walk? (segments path) = some w := by
    rw [walk?_eq_some_iff]
    constructor
    · rintro (hfield | ⟨-, hsplits, hreaches⟩)
      · rw [h _ rfl] at hfield
        cases hfield
      · rwa [splits_segments.mp hsplits]
    · exact fun hreaches => .pieces h (splits_segments.mpr rfl) hreaches
  cases v with
  | object fields =>
    cases hwhole : Table.get? path fields with
    | some u =>
      have hlookup : (object fields).lookup? path = some u := by simp [lookup?, hwhole]
      rw [hlookup]
      constructor
      · rintro ⟨⟩
        exact .whole hwhole
      · rintro (hfield | ⟨hnone, -, -⟩)
        · exact hwhole.symm.trans hfield
        · cases hwhole.symm.trans (hnone fields rfl)
    | none =>
      rw [hpieces (by rintro _ ⟨⟩; exact hwhole)]
      simp [lookup?, hwhole]
  | _ =>
    rw [hpieces (by rintro _ ⟨⟩)]
    rfl

theorem LeadsTo.unique {u : Json} (h : LeadsTo v path w) (h' : LeadsTo v path u) : w = u := by
  rw [← lookup?_eq_some_iff] at h h'
  exact Option.some.inj (h.symm.trans h')

/-! ### Numbers -/

/-- The characters of a text that may belong to a numeral. -/
def numeralChars (s : String) : List Char :=
  (trimChars s.toList).filter fun c => c ≠ '$' ∧ c ≠ ',' ∧ c ≠ ' '

/-- The number that a value is read as. -/
inductive NumberOf : Json → Float → Prop
  | int (n : Int) : NumberOf (.int n) (Float64.ofInt n)
  | real (x : Finite) : NumberOf (.real x) x.val
  | text {s : String} (n : Float64.Numeral) (hchars : n.chars = numeralChars s)
    (hfinite : n.value.isFinite = true) : NumberOf (.text s) n.value

theorem asNumber?_text (s : String) :
    (text s).asNumber? = Float64.ofNumeral? (numeralChars s) := by
  refine congrArg Float64.ofNumeral? (List.filter_congr fun c _ => ?_)
  rw [Bool.eq_iff_iff]
  simp [and_assoc]

theorem asNumber?_eq_some_iff : v.asNumber? = some x ↔ NumberOf v x := by
  constructor
  · intro h
    cases v with
    | int n =>
      cases h
      exact .int n
    | real y =>
      cases h
      exact .real y
    | text s =>
      rw [asNumber?_text] at h
      obtain ⟨n, hchars, rfl, hfinite⟩ := Float64.ofNumeral?_eq_some_iff.mp h
      exact .text n hchars hfinite
    | _ => cases h
  · rintro (n | y | ⟨n, hchars, hfinite⟩)
    · rfl
    · rfl
    · rw [asNumber?_text]
      exact Float64.ofNumeral?_eq_some_iff.mpr ⟨n, hchars, rfl, hfinite⟩

theorem NumberOf.unique {y : Float} (h : NumberOf v x) (h' : NumberOf v y) : x = y := by
  rw [← asNumber?_eq_some_iff] at h h'
  exact Option.some.inj (h.symm.trans h')

end Json

namespace Vocabulary

open Json

variable {body : Json} {path : String} {paths few many : List String} {a : Float}

/-- A path leads to a positive number. -/
def Offers (body : Json) (path : String) (a : Float) : Prop :=
  (∃ v, LeadsTo body path v ∧ NumberOf v a) ∧ a.isFinite = true ∧ 0 < a

/-- A path leads nowhere, to what is no number, or to a number that is not positive. -/
inductive Idle (body : Json) (path : String) : Prop
  | absent (h : ∀ v, ¬LeadsTo body path v)
  | noNumber {v : Json} (h : LeadsTo body path v) (hv : ∀ x, ¬NumberOf v x)
  | notPositive {v : Json} {x : Float} (h : LeadsTo body path v) (hx : NumberOf v x) (hle : x ≤ 0)

/-- A list of paths with others put in between. -/
inductive Padded (idle : String → Prop) : List String → List String → Prop
  | nil : Padded idle [] []
  | keep {few many : List String} (path : String) (h : Padded idle few many) :
    Padded idle (path :: few) (path :: many)
  | insert {few many : List String} {path : String} (hpath : idle path)
    (h : Padded idle few many) : Padded idle few (path :: many)

theorem offer?_eq_some_iff : (((body.lookup? path).bind Json.asNumber?).filter
    fun x => x.isFinite && 0 < x) = some a ↔ Offers body path a := by
  rw [Option.filter_eq_some_iff, Option.bind_eq_some_iff, Bool.and_eq_true, decide_eq_true_eq]
  simp only [lookup?_eq_some_iff, asNumber?_eq_some_iff, Offers]

theorem amountAt?_eq_some_iff : amountAt? body paths = some a ↔
    ∃ before path after, paths = before ++ path :: after ∧ Offers body path a ∧
      ∀ earlier ∈ before, ∀ b, ¬Offers body earlier b := by
  simp only [amountAt?, List.findSome?_eq_some_iff, offer?_eq_some_iff,
    Option.eq_none_iff_forall_ne_some, ne_eq]

theorem amountAt?_append (body : Json) (xs ys : List String) :
    amountAt? body (xs ++ ys) = (amountAt? body xs).or (amountAt? body ys) :=
  List.findSome?_append

theorem Idle.not_offers (h : Idle body path) : ¬Offers body path a := by
  rintro ⟨⟨v, hv, ha⟩, -, hpos⟩
  cases h with
  | absent h => exact h v hv
  | noNumber h hnone =>
    obtain rfl := h.unique hv
    exact hnone a ha
  | notPositive h hx hle =>
    obtain rfl := h.unique hv
    obtain rfl := hx.unique ha
    exact Binary64.float_not_lt hle hpos

theorem amountAt?_padded (h : Padded (Idle body) few many) :
    amountAt? body many = amountAt? body few := by
  induction h with
  | nil => rfl
  | keep path _ ih =>
    rw [← List.singleton_append, amountAt?_append, ih, ← amountAt?_append, List.singleton_append]
  | @insert few many path hpath _ ih =>
    have hnone : amountAt? body [path] = none :=
      List.findSome?_eq_none_iff.mpr fun p hp => by
        rw [List.mem_singleton.mp hp, Option.eq_none_iff_forall_ne_some]
        exact fun a ha => hpath.not_offers (offer?_eq_some_iff.mp ha)
    rw [← List.singleton_append, amountAt?_append, hnone, Option.none_or, ih]

/-- **The amount is the first positive number along the paths.** -/
theorem amountAt_eq_first (body : Json) :
    (∀ paths a, amountAt? body paths = some a ↔
      ∃ before path after, paths = before ++ path :: after ∧ Offers body path a ∧
        ∀ earlier ∈ before, ∀ b, ¬Offers body earlier b) ∧
    (∀ xs ys, amountAt? body (xs ++ ys) = (amountAt? body xs).or (amountAt? body ys)) ∧
    ∀ few many, Padded (Idle body) few many → amountAt? body many = amountAt? body few :=
  ⟨fun _ _ => amountAt?_eq_some_iff, amountAt?_append body, fun _ _ => amountAt?_padded⟩

/-- A negative amount, a path that leads nowhere, a word and a zero in front of an amount. -/
theorem amountAt_eq_first_sample :
    let body := Json.object [("bid", .text " -5 "), ("data", .object [("offers",
      .list [.text "inf", .int 0, .text "$1,250.50"])])]
    let few := ["data.offers.+2"]
    let many := ["bid", "amount", "data.offers.0", "data.offers.1", "data.offers.+2"]
    Padded (Idle body) few many ∧ amountAt? body many = amountAt? body few ∧
      amountAt? body few = some 1250.5 := by
  intro body few many
  have hleads {path : String} {v : Json} (h : body.lookup? path = some v) : LeadsTo body path v :=
    lookup?_eq_some_iff.mp h
  have hbid : Idle body "bid" := .notPositive (x := -5) (hleads rfl)
    (asNumber?_eq_some_iff.mp (by decide)) (by decide)
  have hamount : Idle body "amount" := .absent fun v hv => by
    cases lookup?_eq_some_iff.mpr hv
  have hword : Idle body "data.offers.0" := .noNumber (hleads rfl) fun x hx => by
    have hnone : (Json.text "inf").asNumber? = none := by decide
    cases hnone.symm.trans (asNumber?_eq_some_iff.mpr hx)
  have hzero : Idle body "data.offers.1" := .notPositive (hleads rfl) (.int 0) (by decide)
  have hpadded : Padded (Idle body) few many :=
    .insert hbid (.insert hamount (.insert hword (.insert hzero (.keep _ .nil))))
  exact ⟨hpadded, (amountAt_eq_first body).2.2 few many hpadded, by decide⟩

end Vocabulary

end PingPost
