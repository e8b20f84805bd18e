import PingPost.Transform.Basic

/-! Transforms of truth values into the words and figures that buyers expect. -/

namespace PingPost.Transform

/-- One of two values, by the truth of the input. -/
def choose (yes no : Json) : Transform := fun v _ => do
  let b ← v.asBool
  return if b then yes else no

/-- `Yes` or `No`. -/
def yesNo : Transform := choose (.text "Yes") (.text "No")

/-- `Y` or `N`. -/
def yn : Transform := choose (.text "Y") (.text "N")

/-- `true` or `false` as text. -/
def trueFalse : Transform := choose (.text "true") (.text "false")

/-- One or zero. -/
def oneZero : Transform := choose (.int 1) (.int 0)

/-- The truth value. -/
def toBoolean : Transform := choose (.bool true) (.bool false)

/-- `Own` or `Rent`. -/
def homeownerStatus : Transform := choose (.text "Own") (.text "Rent")

/-- `Y` or `N` for consent to be called. -/
def tcpaFlag : Transform := choose (.text "Y") (.text "N")

end PingPost.Transform
