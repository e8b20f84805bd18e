import PingPost.Transform.Basic
import PingPost.Time.Layout

/-!
Transforms of dates. A date is a count of seconds since 1970, a date and time, or a bare date at
midnight; all results are in universal time.
-/

namespace PingPost.Transform

/-- The value as an instant, or why it is none. -/
def instant (v : Json) : Except String Instant :=
  match v with
  | .int n =>
    if -Nat.pow 2 63 ≤ n ∧ n < Nat.pow 2 63 then
      match Instant.ofSeconds? n with
      | some t => .ok t
      | none => .error s!"timestamp {n} out of range"
    else .error "timestamp must be an integer"
  | .real _ => .error "timestamp must be an integer"
  | _ =>
    let s := Text.trim v.asText
    match Instant.ofRfc3339? s with
    | some t => .ok t
    | none =>
      match CivilDate.ofText? s with
      | some d => .ok (Instant.ofDate d)
      | none => .error s!"'{s}' is not a recognised date"

/-- Date and time to the second. -/
def dateIso : Transform := fun v _ => do
  let t ← instant v
  return .text t.toRfc3339

/-- A transform that writes the date in a layout; where an item cannot be written, it breaks off. -/
def inLayout (layout : List Layout.Item) : Transform := fun v _ => do
  let t ← instant v
  match Layout.render? layout t with
  | some s => return .text s
  | none => throw .breakOff

/-- Month, day and year with slashes. -/
def usDate : Transform :=
  inLayout [.number .month .zero, .literal "/", .number .day .zero, .literal "/",
    .number .year .zero]

/-- Seconds since 1970. -/
def timestamp : Transform := fun v _ => do
  let t ← instant v
  return .int t.seconds

/-- The year. -/
def year : Transform := inLayout [.number .year .zero]

/-- The date in the layout of the first argument, which breaks off if the layout asks for an offset
in any form. -/
def dateFormat : Transform := fun v args =>
  match args with
  | .text layout :: _ =>
    match Layout.ofText? layout with
    | some items => inLayout items v args
    | none => refuse s!"invalid date format '{layout}'"
  | _ => refuse "date.format requires a format string argument"

end PingPost.Transform
