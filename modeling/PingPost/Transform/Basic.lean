import PingPost.Json.Reading

/-!
Named transforms: functions of a value and some arguments, which may refuse the value with a
reason, or break off. This module holds what the families of transforms share: reading a number,
reading an argument, and writing a number back.
-/

namespace PingPost

/-- Why a transform gives no value. -/
inductive TransformFault where
  | refusal (reason : String)
  /-- The result cannot be written. Nobody handles this: whatever asked for the value ends without
  a result. -/
  | breakOff
  deriving DecidableEq, Repr

/-- A function of a value and arguments. -/
abbrev Transform := Json → List Json → Except TransformFault Json

/-- What is not read from a value is refused. -/
instance : MonadLift (Except String) (Except TransformFault) where
  monadLift r := r.mapError .refusal

namespace Transform

/-- Refuses a value. -/
def refuse (reason : String) : Except TransformFault Json := .error (.refusal reason)

/-- The value as a number, or why it is none. -/
def number (v : Json) : Except String Float :=
  match v.asNumber? with
  | some x => .ok x
  | none => .error s!"'{v.asText}' is not a number"

/-- An argument that counts something. -/
def countArgument (args : List Json) (index default : Nat) : Except String Nat :=
  match args[index]? with
  | none => .ok default
  | some (.int n) =>
    if 0 ≤ n ∧ n < Nat.pow 2 64 then .ok n.toNat
    else .error s!"argument {index} must be a non-negative integer"
  | some _ => .error s!"argument {index} must be a non-negative integer"

/-- Magnitude from which whole numbers are no longer written as integers. -/
def wholeLimit : Float := 9.0e15

/-- A number as a value: whole numbers below the limit become integers. -/
def numberValue (x : Float) : Json :=
  if Float64.isInteger x && x.abs < wholeLimit then .int (Float64.toSigned Dyadic.truncate x)
  else .ofFloat x

end Transform

end PingPost
