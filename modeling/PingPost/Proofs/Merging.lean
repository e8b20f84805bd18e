import PingPost.Json.Reading
import PingPost.Vocabulary.Document

/-!
Laws of laying one vocabulary over another.

A vocabulary has fourteen parts (`Vocabulary.Part`), and each is merged by one of two rules
(`Vocabulary.Rule`): a text or a list as a whole, unless it is blank or empty, and the table of
status codes key by key. Every law is shown for the rules and holds for the vocabularies part by
part (`Part.read_laidOn`).

A document may leave out a part or have nothing in it. In both cases the common vocabulary speaks
(`Part.read_of_silent`): in the first its part was put there by the reader, in the second by the
merge. The laws need the tables of status codes in order, as those of all vocabularies that were
read are (`Part.actions_ordered`).
-/

namespace PingPost

/-! ### Fields of records -/

/-- Reads what a document has for a field, if anything. -/
def Field.ofGiven? {α : Type} (f : Field α) : Option Json → Option α
  | none => f.absent?
  | some v => f.codec.decode? v

/-- Whether a record has a field at a place, with values that are read off its own. -/
structure Record.Has {α β : Type} (r : Record α) (place : Nat) (f : Field β) (get : α → β) :
    Prop where
  fields : ∀ {fields x}, r.ofFields? fields = some x →
    f.ofGiven? (Table.get? f.name fields) = some (get x)
  items : ∀ {items x rest}, r.ofItems? items = some (x, rest) →
    f.ofGiven? items[place]? = some (get x)

section

variable {α β γ : Type} {f : Field α}

theorem Field.ofGiven?_of_fields {fields : List (String × Json)} {x : α}
    (h : f.ofFields? fields = some x) : f.ofGiven? (Table.get? f.name fields) = some x := by
  have hget : Table.get? f.name fields =
      (fields.filter fun e => e.1 == f.name).head?.map (·.2) := by
    clear h
    induction fields with
    | nil => rfl
    | cons e fields ih =>
      rw [Table.get?_cons, ih, List.filter_cons]
      by_cases hname : f.name = e.1
      · simp [hname]
      · simp [hname, Ne.symm hname]
  unfold Field.ofFields? at h
  rw [hget]
  split at h
  · rename_i hnone
    rw [hnone]
    exact h
  · rename_i e hone
    rw [hone]
    exact h
  · cases h

/-- One field reads the front of a list of values. -/
theorem Record.one_ofItems? (hcut : f.cutOff? = f.absent?) {items rest : List Json} {x : α}
    (h : (one f).ofItems? items = some (x, rest)) :
    f.ofGiven? items[0]? = some x ∧ rest = items.drop 1 := by
  cases items with
  | nil =>
    obtain ⟨y, hy, heq⟩ := Option.map_eq_some_iff.mp h
    cases heq
    exact ⟨hcut.symm.trans hy, rfl⟩
  | cons v items =>
    obtain ⟨y, hy, heq⟩ := Option.map_eq_some_iff.mp h
    cases heq
    exact ⟨hy, rfl⟩

namespace Record.Has

theorem one (hcut : f.cutOff? = f.absent?) : (one f).Has 0 f id where
  fields := Field.ofGiven?_of_fields
  items h := (one_ofItems? hcut h).1

theorem and_head (hcut : f.cutOff? = f.absent?) {r : Record β} : (and f r).Has 0 f Prod.fst where
  fields h := by
    simp only [Record.and, Option.bind_eq_bind, Option.bind_eq_some_iff, Option.pure_def,
      Option.some.injEq] at h
    obtain ⟨x, hx, y, -, rfl⟩ := h
    exact Field.ofGiven?_of_fields hx
  items h := by
    simp only [Record.and, Option.bind_eq_bind, Option.bind_eq_some_iff, Option.pure_def,
      Option.some.injEq, Prod.mk.injEq] at h
    obtain ⟨⟨x, rest⟩, hx, -, -, rfl, -⟩ := h
    exact (one_ofItems? hcut hx).1

theorem and_tail (hcut : f.cutOff? = f.absent?) {r : Record β} {place : Nat} {g : Field γ}
    {get : β → γ} (hr : r.Has place g get) : (and f r).Has (place + 1) g (get ∘ Prod.snd) where
  fields h := by
    simp only [Record.and, Option.bind_eq_bind, Option.bind_eq_some_iff, Option.pure_def,
      Option.some.injEq] at h
    obtain ⟨x, -, y, hy, rfl⟩ := h
    exact hr.fields hy
  items {items _ _} h := by
    simp only [Record.and, Option.bind_eq_bind, Option.bind_eq_some_iff, Option.pure_def,
      Option.some.injEq, Prod.mk.injEq] at h
    obtain ⟨⟨x, rest⟩, hx, ⟨y, rest'⟩, hy, rfl, -⟩ := h
    have hplace : rest[place]? = items[place + 1]? := by
      rw [(one_ofItems? hcut hx).2, List.getElem?_drop, Nat.add_comm]
    exact hplace ▸ hr.items hy

theorem via {r : Record α} {build : α → β} {parts : β → α} {place : Nat} {g : Field γ}
    {get : α → γ} {get' : β → γ} (hr : r.Has place g get) (h : ∀ x, get' (build x) = get x) :
    (r.via build parts).Has place g get' where
  fields hread := by
    obtain ⟨x, hx, rfl⟩ := Option.map_eq_some_iff.mp hread
    rw [h]
    exact hr.fields hx
  items hread := by
    obtain ⟨⟨x, rest⟩, hx, heq⟩ := Option.map_eq_some_iff.mp hread
    cases heq
    rw [h]
    exact hr.items hx

end Record.Has

end

namespace Vocabulary

/-! ### Rules -/

/-- How a part is laid over the same part of another vocabulary: as a whole unless nothing is said,
or key by key. -/
inductive Rule : Type → Type 1 where
  | whole {α : Type} (silent : α → Bool) : Rule α
  | table : Rule (Table Nat HttpAction)

namespace Rule

variable {α : Type}

/-- The outcome of a rule. -/
def lay : Rule α → α → α → α
  | whole silent, own, common => if silent own then common else own
  | table, own, common => common.putAll own

/-- Whether nothing is said. -/
def Silent : Rule α → α → Prop
  | whole silent, own => silent own = true
  | table, own => own = []

/-- Tables are in order. -/
def WellKept : Rule α → α → Prop
  | whole _, _ => True
  | table, t => t.Ordered

variable (rule : Rule α) {own middle common : α}

theorem lay_of_silent (h : rule.Silent own) : rule.lay own common = common := by
  cases rule with
  | whole silent => exact if_pos h
  | table =>
    cases h
    rfl

theorem lay_self (h : rule.WellKept common) : rule.lay common common = common := by
  cases rule with
  | whole silent => exact ite_self _
  | table =>
    refine (h.putAll _).ext h fun code => ?_
    rw [h.get?_putAll, Option.or_self]

theorem lay_lay (hcommon : rule.WellKept common) :
    rule.lay (rule.lay own common) common = rule.lay own common := by
  cases rule with
  | whole silent =>
    by_cases hown : silent own = true
    · simp only [lay, if_pos hown, ite_self]
    · simp only [lay, if_neg hown]
  | table =>
    have hlaid : (common.putAll own).Ordered := hcommon.putAll own
    refine (hcommon.putAll _).ext hlaid fun code => ?_
    change (common.putAll (common.putAll own)).get? code = (common.putAll own).get? code
    rw [hlaid.get?_putAll, Table.get?_putAll, Option.or_assoc, Option.or_self]

theorem lay_assoc (hmiddle : rule.WellKept middle) (hcommon : rule.WellKept common) :
    rule.lay own (rule.lay middle common) = rule.lay (rule.lay own middle) common := by
  cases rule with
  | whole silent =>
    by_cases hown : silent own = true
    · simp only [lay, if_pos hown]
    · simp only [lay, if_neg hown]
  | table =>
    have hupper : (middle.putAll own).Ordered := hmiddle.putAll own
    have hlower : (common.putAll middle).Ordered := hcommon.putAll middle
    refine (hlower.putAll own).ext (hcommon.putAll _) fun code => ?_
    change ((common.putAll middle).putAll own).get? code =
      (common.putAll (middle.putAll own)).get? code
    rw [hupper.get?_putAll, Table.get?_putAll, Table.get?_putAll code middle,
      hmiddle.get?_putAll, Option.or_assoc]

end Rule

/-! ### Parts -/

/-- A part of a vocabulary, in the order of the fields of documents. -/
inductive Part where
  | pingStatusPath | postStatusPath
  | accepted | rejected | errors | delivered | failed | duplicate | invalid
  | amountPaths | reasonPaths | leadIdPaths
  | actions
  | indicators

namespace Part

/-- What a part consists of. -/
abbrev Content : Part → Type
  | pingStatusPath | postStatusPath => String
  | accepted | rejected | errors | delivered | failed | duplicate | invalid
  | amountPaths | reasonPaths | leadIdPaths => List String
  | actions => Table Nat HttpAction
  | indicators => List Indicator

/-- What a vocabulary has for a part. -/
def read (w : Vocabulary) : (p : Part) → p.Content
  | pingStatusPath => w.pingStatusPath
  | postStatusPath => w.postStatusPath
  | accepted => w.accepted
  | rejected => w.rejected
  | errors => w.errors
  | delivered => w.delivered
  | failed => w.failed
  | duplicate => w.duplicate
  | invalid => w.invalid
  | amountPaths => w.amountPaths
  | reasonPaths => w.reasonPaths
  | leadIdPaths => w.leadIdPaths
  | actions => w.actions
  | indicators => w.indicators

/-- The rule by which a part is merged. -/
def rule : (p : Part) → Rule p.Content
  | pingStatusPath | postStatusPath => .whole Text.isBlankText
  | accepted | rejected | errors | delivered | failed | duplicate | invalid
  | amountPaths | reasonPaths | leadIdPaths | indicators => .whole List.isEmpty
  | actions => .table

/-- The name of a part in documents. -/
def name : Part → String
  | pingStatusPath => "pingStatusField"
  | postStatusPath => "postStatusField"
  | accepted => "acceptedValues"
  | rejected => "rejectedValues"
  | errors => "errorValues"
  | delivered => "deliveredValues"
  | failed => "failedValues"
  | duplicate => "duplicateValues"
  | invalid => "invalidValues"
  | amountPaths => "bidAmountFields"
  | reasonPaths => "reasonFields"
  | leadIdPaths => "leadIdFields"
  | actions => "httpStatusCodes"
  | indicators => "successIndicators"

/-- How the contents of a part are written. -/
def codec : (p : Part) → Codec p.Content
  | pingStatusPath | postStatusPath => .text
  | accepted | rejected | errors | delivered | failed | duplicate | invalid
  | amountPaths | reasonPaths | leadIdPaths => .list .text
  | actions => actionsCodec
  | indicators => .list Indicator.codec

/-- The field of a part. -/
def field (p : Part) : Field p.Content := .withDefault p.name p.codec (p.read standard)

variable {own common w : Vocabulary}

theorem ext {v w : Vocabulary} (h : ∀ p : Part, p.read v = p.read w) : v = w := by
  cases v
  cases w
  rw [mk.injEq]
  exact ⟨h pingStatusPath, h postStatusPath, h accepted, h rejected, h errors, h delivered,
    h failed, h duplicate, h invalid, h amountPaths, h reasonPaths, h leadIdPaths, h actions,
    h indicators⟩

theorem read_laidOn (p : Part) :
    p.read (own.laidOn common) = p.rule.lay (p.read own) (p.read common) := by
  cases p <;> rfl

theorem wellKept (h : w.actions.Ordered) (p : Part) : p.rule.WellKept (p.read w) := by
  cases p with
  | actions => exact h
  | _ => exact trivial

/-- Every part is a field of the documents. -/
theorem record_has (p : Part) : record.Has p.ctorIdx p.field (p.read ·) := by
  cases p
  all_goals
    apply Record.Has.via
    case hr =>
      repeat first
        | exact .and_head rfl
        | exact .one rfl
        | apply Record.Has.and_tail rfl
    case h =>
      intro x
      rfl

/-- What a document has for a part: the field of its name or, in a list, the value in its place. -/
def given? (p : Part) : Json → Option Json
  | .object fields => Table.get? p.name fields
  | .list items => items[p.ctorIdx]?
  | _ => none

theorem ofGiven?_of_decode {doc : Json} (h : Vocabulary.codec.decode? doc = some w) (p : Part) :
    p.field.ofGiven? (p.given? doc) = some (p.read w) := by
  cases doc with
  | object fields => exact p.record_has.fields h
  | list items =>
    change record.ofAllItems? items = some w at h
    unfold Record.ofAllItems? at h
    split at h
    · rename_i hread
      cases h
      exact p.record_has.items hread
    · cases h
  | _ => cases h

/-- The table of a vocabulary that was read is in order, its own one or the common one. -/
theorem actions_ordered {doc : Json} (h : Vocabulary.codec.decode? doc = some w) :
    w.actions.Ordered := by
  have hread := ofGiven?_of_decode h actions
  cases hgiven : given? actions doc with
  | none =>
    rw [hgiven] at hread
    have hstandard : standard.actions = w.actions := Option.some.inj hread
    rw [← hstandard]
    exact Table.Ordered.ofList _
  | some v =>
    rw [hgiven] at hread
    cases v with
    | object fields =>
      obtain ⟨entries, -, hentries⟩ := Option.map_eq_some_iff.mp hread
      have hactions : Table.ofList entries = w.actions := hentries
      rw [← hactions]
      exact Table.Ordered.ofList _
    | _ => cases hread

/-- A value with nothing in it is read as a part that says nothing. -/
theorem silent_of_missing {v : Json} (hv : v.isMissing = true) {p : Part} {x : p.Content}
    (h : p.codec.decode? v = some x) : p.rule.Silent x := by
  have htext {s : String} (hs : Codec.text.decode? v = some s) : Text.isBlankText s = true := by
    cases v with
    | text s' =>
      cases hs
      exact hv
    | _ => cases hs
  have hlist {α : Type} {c : Codec α} {xs : List α} (hxs : c.list.decode? v = some xs) :
      xs.isEmpty = true := by
    cases v with
    | list items =>
      cases List.isEmpty_iff.mp hv
      cases hxs
      rfl
    | _ => cases hxs
  cases p with
  | pingStatusPath | postStatusPath => exact htext h
  | actions =>
    cases v with
    | object fields =>
      cases List.isEmpty_iff.mp hv
      cases h
      rfl
    | _ => cases h
  | _ => exact hlist h

/-- Where a document has nothing for a part, or nothing in it, the common vocabulary speaks. -/
theorem read_of_silent {doc : Json} (h : Vocabulary.codec.decode? doc = some w) (p : Part)
    (hp : ∀ v, p.given? doc = some v → v.isMissing = true) :
    p.read (w.laidOn standard) = p.read standard := by
  have hread := ofGiven?_of_decode h p
  rw [read_laidOn]
  cases hgiven : p.given? doc with
  | none =>
    rw [hgiven] at hread
    have hstandard : p.read standard = p.read w := Option.some.inj hread
    rw [← hstandard]
    exact p.rule.lay_self (wellKept (Table.Ordered.ofList _) p)
  | some v =>
    rw [hgiven] at hread
    exact p.rule.lay_of_silent (silent_of_missing (hp v hgiven) hread)

end Part

/-! ### The laws -/

theorem action_laidOn {own : Vocabulary} (h : own.actions.Ordered) (common : Vocabulary)
    (code : Nat) :
    (own.laidOn common).action code = (own.actions.get? code).getD (common.action code) := by
  unfold action
  change ((common.actions.putAll own.actions).get? code).getD _ = _
  rw [h.get?_putAll]
  cases own.actions.get? code <;> rfl

/-- Laying a vocabulary over another one is idempotent and associative; a status code is judged
by the upper vocabulary if it lists the code, else by the lower one; and a part that is missing
from a document, or has nothing in it, is the common one. -/
theorem laidOn_laws {a b d : Vocabulary} (ha : a.actions.Ordered) (hb : b.actions.Ordered)
    (hd : d.actions.Ordered) :
    (a.laidOn d).laidOn d = a.laidOn d ∧
    a.laidOn (b.laidOn d) = (a.laidOn b).laidOn d ∧
    (∀ code, (a.laidOn d).action code = (a.actions.get? code).getD (d.action code)) ∧
    ∀ doc w, codec.decode? doc = some w → ∀ p : Part,
      (p.given? doc = none ∨ ∃ v, p.given? doc = some v ∧ v.isMissing = true) →
      p.read (w.laidOn standard) = p.read standard := by
  refine ⟨?idempotent, ?associative, action_laidOn ha d, ?documents⟩
  case idempotent =>
    apply Part.ext
    intro p
    rw [Part.read_laidOn, Part.read_laidOn]
    exact p.rule.lay_lay (Part.wellKept hd p)
  case associative =>
    apply Part.ext
    intro p
    simp only [Part.read_laidOn]
    exact p.rule.lay_assoc (Part.wellKept hb p) (Part.wellKept hd p)
  case documents =>
    intro doc w hread p hp
    apply Part.read_of_silent hread p
    intro v hv
    rcases hp with hnone | ⟨v', hv', hmissing⟩
    · rw [hnone] at hv
      cases hv
    · rw [hv'] at hv
      cases hv
      exact hmissing

/-- A document with one list of its own, an empty one, a blank text and one status code. -/
theorem laidOn_laws_sample :
    let doc : Json := .object [("acceptedValues", .list [.text "green"]),
      ("httpStatusCodes", .object [("202", .text "retry")]), ("pingStatusField", .text " "),
      ("rejectedValues", .list [])]
    ∃ w, codec.decode? doc = some w ∧ w.actions.Ordered ∧ standard.actions.Ordered ∧
      (w.laidOn standard).laidOn standard = w.laidOn standard ∧
      (w.laidOn standard).action 202 = .retry ∧
      (w.laidOn standard).action 429 = standard.action 429 ∧
      (w.laidOn standard).rejected = standard.rejected ∧
      (w.laidOn standard).pingStatusPath = "status" ∧
      (w.laidOn standard).failed = standard.failed := by
  intro doc
  obtain ⟨w, hw⟩ : ∃ w, codec.decode? doc = some w :=
    Option.isSome_iff_exists.mp (by decide)
  have hown : w.actions.Ordered := Part.actions_ordered hw
  have hstandard : standard.actions.Ordered := Table.Ordered.ofList _
  have hactions : w.actions = [(202, .retry)] := by
    have hread : actionsCodec.decode? (.object [("202", .text "retry")]) = some w.actions :=
      Part.ofGiven?_of_decode hw .actions
    have hvalue : actionsCodec.decode? (.object [("202", .text "retry")]) =
        some [(202, .retry)] := by decide
    exact Option.some.inj (hread.symm.trans hvalue)
  obtain ⟨hagain, -, haction, hdocuments⟩ := laidOn_laws hown hstandard hstandard
  refine ⟨w, hw, hown, hstandard, hagain, ?_, ?_, ?_, ?_, ?_⟩
  · rw [haction, hactions]
    rfl
  · rw [haction, hactions]
    rfl
  · exact hdocuments doc w hw .rejected (.inr ⟨_, rfl, rfl⟩)
  · exact hdocuments doc w hw .pingStatusPath (.inr ⟨_, rfl, by decide⟩)
  · exact hdocuments doc w hw .failed (.inl rfl)

end Vocabulary

end PingPost
