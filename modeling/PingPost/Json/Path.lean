import PingPost.Json.Value
import PingPost.Text.Blank

/-!
Dotted paths into JSON values.

A path is read segment by segment: a key in an object, a decimal index in a list. A field whose
key is the whole path wins over its segments, so keys that hold dots stay reachable. Writing
makes the objects it needs and replaces whatever else stands on the way.
-/

namespace PingPost.Json

/-- The segments of a path. There is always one; segments may be empty. -/
def segments (path : String) : List String :=
  (path.toList.splitOn '.').map String.ofList

/-- A list index: decimal digits, with an optional plus sign, below 2 ^ 64. -/
def index? (segment : String) : Option Nat := Text.natBelow? (Nat.pow 2 64) segment.toList

/-- The part of a value at one segment. -/
def child? (v : Json) (segment : String) : Option Json :=
  match v with
  | .object fields => Table.get? segment fields
  | .list items => (index? segment).bind fun i => items[i]?
  | _ => none

/-- The part of a value at the end of a list of segments. -/
def walk? (v : Json) : List String → Option Json
  | [] => some v
  | s :: rest => (v.child? s).bind fun w => walk? w rest

/-- The part of a value at a path. -/
def lookup? (v : Json) (path : String) : Option Json :=
  let whole := match v with
    | .object fields => Table.get? path fields
    | _ => none
  match whole with
  | some w => some w
  | none => v.walk? (segments path)

/-- The fields of an object; none for any other value. -/
def fieldsOf : Json → Fields
  | .object fields => fields
  | _ => []

/-- Writes at the end of a list of segments. -/
def insertAt (fields : Fields) (value : Json) : List String → Fields
  | [] => fields
  | [s] => fields.put s value
  | s :: t :: rest =>
    let inner := ((fields.get? s).map fieldsOf).getD []
    fields.put s (.object (insertAt inner value (t :: rest)))

/-- Writes a value at a path. -/
def insert (fields : Fields) (path : String) (value : Json) : Fields :=
  insertAt fields value (segments path)

end PingPost.Json
