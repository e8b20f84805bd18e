import PingPost.Transform.Basic

/-! Transforms of answers about home services into the wording of buyers. -/

namespace PingPost.Transform

/-- A count of windows as one of four ranges. -/
def windowsCount : Transform := fun v _ => do
  let x ← number v
  let n := Float64.toSigned Dyadic.floor x
  if n ≤ 0 then refuse s!"window count must be positive, got {n}"
  else if n ≤ 2 then return .text "1-2 windows"
  else if n ≤ 5 then return .text "3-5 windows"
  else if n ≤ 10 then return .text "6-10 windows"
  else return .text "11+ windows"

/-- Replaces the words of a table, trimmed and in lower case, by their wording; any other text
stays as it is. -/
def reword (table : List (List String × String)) : Transform := fun v _ =>
  let raw := v.asText
  let word := Text.lower (Text.trim raw)
  match table.find? fun (words, _) => words.contains word with
  | some (_, wording) => .ok (.text wording)
  | none => .ok (.text raw)

/-- When the work should be done. -/
def timeframe : Transform := reword [
  (["immediately", "asap", "now"], "Immediately"),
  (["within_1_month", "1_month", "within_a_month"], "Within 1 month"),
  (["within_3_months", "1_3_months"], "1-3 months"),
  (["within_6_months", "3_6_months"], "3-6 months"),
  (["over_6_months", "6_plus_months"], "6+ months"),
  (["flexible", "not_sure", "unknown"], "Flexible")]

/-- What a roof needs. -/
def roofingScope : Transform := reword [
  (["repair", "fix"], "Repair"),
  (["replace", "replacement", "full_replacement"], "Replacement"),
  (["new", "new_roof", "installation"], "New Installation"),
  (["inspection"], "Inspection")]

end PingPost.Transform
