import PingPost.Transform.Basic

/-! Transforms of numbers: rounding, fixed places, and their texts. -/

namespace PingPost.Transform

/-- The nearest integer, kept in the signed 64-bit range. -/
def integer : Transform := fun v _ => do
  let x ← number v
  return .int (Float64.toSigned Dyadic.truncate (Float64.round x))

/-- Most places that rounding keeps. -/
def maxPlaces : Nat := 10

/-- The number rounded to as many places as the first argument says, none without one. -/
def round : Transform := fun v args => do
  let places ← countArgument args 0 0
  let factor := Float64.ofInt (Nat.pow 10 (min places maxPlaces))
  let x ← number v
  return numberValue (Float64.round (x * factor) / factor)

/-- Text with two places. -/
def currency : Transform := fun v _ => do
  let x ← number v
  return .text (Float64.fixedText 2 x)

/-- Text of the number. -/
def numberText : Transform := fun v _ => do
  let x ← number v
  return .text (numberValue x).asText

/-- The number itself. -/
def parse : Transform := fun v _ => do
  let x ← number v
  return numberValue x

end PingPost.Transform
