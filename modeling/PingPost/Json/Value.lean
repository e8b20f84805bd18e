import PingPost.Decimal.Text
import PingPost.Table

/-!
JSON values. Integers and binary64 numbers are different values: `1` is not `1.0`. Objects list
their fields by increasing key, each key once; the reader builds them that way.
-/

namespace PingPost

/-- A JSON value. -/
inductive Json where
  | null
  | bool (b : Bool)
  | int (n : Int)
  | real (x : Finite)
  | text (s : String)
  | list (items : List Json)
  | object (fields : List (String × Json))
  deriving Inhabited

/-- The fields of an object. -/
abbrev Fields := Table String Json

namespace Json

/-- A binary64 number as a JSON value; JSON has none for infinities and NaNs. -/
def ofFloat (x : Float) : Json := if h : x.isFinite = true then .real ⟨x, h⟩ else .null

/-- The value of an optional datum: absence is `null`. -/
def ofOption {α : Type} (f : α → Json) : Option α → Json
  | none => .null
  | some a => f a

mutual

/-- Equality of values. Zeros are equal whatever their sign. -/
def same : Json → Json → Bool
  | .null, .null => true
  | .bool a, .bool b => a == b
  | .int a, .int b => a == b
  | .real a, .real b => a.val == b.val
  | .text a, .text b => a == b
  | .list a, .list b => sameItems a b
  | .object a, .object b => sameFields a b
  | _, _ => false

/-- Equality of lists of values. -/
def sameItems : List Json → List Json → Bool
  | [], [] => true
  | a :: as, b :: bs => same a b && sameItems as bs
  | _, _ => false

/-- Equality of lists of fields. -/
def sameFields : List (String × Json) → List (String × Json) → Bool
  | [], [] => true
  | (k, a) :: as, (l, b) :: bs => k == l && same a b && sameFields as bs
  | _, _ => false

end

instance : BEq Json := ⟨same⟩

mutual

/-- Orders the fields of every object in a value; of equal keys the last counts. -/
def canonical : Json → Json
  | .list items => .list (canonicalItems items)
  | .object fields => .object (Table.ofList (canonicalFields fields))
  | v => v

/-- Orders the fields inside every item. -/
def canonicalItems : List Json → List Json
  | [] => []
  | v :: vs => canonical v :: canonicalItems vs

/-- Orders the fields inside every value of a list of fields. -/
def canonicalFields : List (String × Json) → List (String × Json)
  | [] => []
  | (k, v) :: rest => (k, canonical v) :: canonicalFields rest

end

/-- Whether the value is `null`. -/
def isNull : Json → Bool
  | .null => true
  | _ => false

/-- Whether the value is an object. -/
def isObject : Json → Bool
  | .object _ => true
  | _ => false

end Json

end PingPost
