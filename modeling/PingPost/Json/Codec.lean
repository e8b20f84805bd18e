import PingPost.Json.Reader
import PingPost.Time.Text

/-!
Codecs: how the values of a type are written as JSON and read back.

A reader fills in what a document leaves out, so several documents may mean one value; a writer
writes every field. `Codec.Stable` says that what was read and written again reads as the same
value. Records (`Record`) are built field by field. A record is read from an object, whose fields
may come in any order and among others, or from a list of the field values in order.
-/

namespace PingPost

/-- A writer and a reader of the values of a type. -/
structure Codec (α : Type) where
  encode : α → Json
  decode? : Json → Option α

namespace Codec

variable {α β : Type}

/-- What was read and is written again reads as the same value. -/
def Stable (c : Codec α) : Prop := ∀ v x, c.decode? v = some x → c.decode? (c.encode x) = some x

/-- Texts. -/
def text : Codec String where
  encode := .text
  decode?
    | .text s => some s
    | _ => none

/-- Truth values. -/
def bool : Codec Bool where
  encode := .bool
  decode?
    | .bool b => some b
    | _ => none

/-- Natural numbers of `bits` bits. -/
def word (bits : Nat) : Codec Nat where
  encode n := .int n
  decode?
    | .int n => if 0 ≤ n ∧ n < Nat.pow 2 bits then some n.toNat else none
    | _ => none

/-- Signed integers of `bits` bits. -/
def signedWord (bits : Nat) : Codec Int where
  encode := .int
  decode?
    | .int n => if -Nat.pow 2 (bits - 1) ≤ n ∧ n < Nat.pow 2 (bits - 1) then some n else none
    | _ => none

/-- Finite binary64 numbers; an integer stands for the nearest one. -/
def number : Codec Finite where
  encode := .real
  decode?
    | .real x => some x
    | .int n =>
      let x := Float64.ofInt n
      if h : x.isFinite = true then some ⟨x, h⟩ else none
    | _ => none

/-- Binary64 numbers that may have left the finite range since they were read. -/
def amount : Codec Float64.Word where
  encode w := .ofFloat w.toFloat
  decode? v := (number.decode? v).map fun x => .ofFloat x.val

/-- Instants. -/
def instant : Codec Instant where
  encode t := .text t.toRfc3339Full
  decode?
    | .text s => Instant.ofRelaxed? s
    | _ => none

/-- Any JSON value, with the fields of its objects in order. -/
def value : Codec Json where
  encode := id
  decode? v := some v.canonical

/-- Fields of an object, as they are. -/
def fields : Codec Fields where
  encode := .object
  decode? v :=
    match v.canonical with
    | .object fs => some fs
    | _ => none

/-- Lists. -/
def list (c : Codec α) : Codec (List α) where
  encode xs := .list (xs.map c.encode)
  decode?
    | .list vs => vs.mapM c.decode?
    | _ => none

/-- Values that may be missing; `null` says that one is. -/
def nullable (c : Codec α) : Codec (Option α) where
  encode
    | none => .null
    | some x => c.encode x
  decode?
    | .null => some none
    | v => (c.decode? v).map some

/-- Tables from keys that are written as texts. -/
def table {κ : Type} [DecidableEq κ] [LT κ] [DecidableLT κ] (toText : κ → String)
    (ofText? : String → Option κ) (c : Codec α) : Codec (Table κ α) where
  encode t := .object (Table.ofList (t.map fun e => (toText e.1, c.encode e.2)))
  decode?
    | .object fs =>
      (fs.mapM fun ((k, v) : String × Json) => do
        return (← ofText? k, ← c.decode? v)).map Table.ofList
    | _ => none

/-- Tables from texts. -/
def textTable (c : Codec α) : Codec (Table String α) := table id some c

/-- Names of the values of an enumeration. A name also stands as the only key of an object,
over `null`. -/
def names [BEq α] (entries : List (String × α)) : Codec α where
  encode x := .text (((entries.find? fun e => e.2 == x).map (·.1)).getD "")
  decode?
    | .text s => (entries.find? fun e => e.1 == s).map (·.2)
    | .object [(s, .null)] => (entries.find? fun e => e.1 == s).map (·.2)
    | _ => none

/-- The same documents for a type of the same shape. -/
def via (build : α → β) (parts : β → α) (c : Codec α) : Codec β where
  encode y := c.encode (parts y)
  decode? v := (c.decode? v).map build

end Codec

/-- A field of a record. -/
structure Field (α : Type) where
  name : String
  codec : Codec α
  /-- The value in an object without the field, if there may be such objects. -/
  absent? : Option α
  /-- The value in a list that ends before the field, if there may be such lists. -/
  cutOff? : Option α

namespace Field

variable {α : Type}

/-- A field that must be there. -/
def required (name : String) (c : Codec α) : Field α := ⟨name, c, none, none⟩

/-- A field with a value of its own when it is left out. -/
def withDefault (name : String) (c : Codec α) (default : α) : Field α :=
  ⟨name, c, some default, some default⟩

/-- A field that may be left out of objects, or be `null`. -/
def nullable (name : String) (c : Codec α) : Field (Option α) :=
  ⟨name, c.nullable, some none, none⟩

/-- A field that may be left out, or be `null`. -/
def optional (name : String) (c : Codec α) : Field (Option α) :=
  withDefault name c.nullable none

/-- Reads the field of an object. A field that is there twice is refused. -/
def ofFields? (f : Field α) (fields : List (String × Json)) : Option α :=
  match fields.filter fun e => e.1 == f.name with
  | [] => f.absent?
  | [e] => f.codec.decode? e.2
  | _ => none

end Field

/-- A type written as fields in a fixed order. -/
structure Record (α : Type) where
  write : α → List (String × Json)
  ofFields? : List (String × Json) → Option α
  /-- Reads the front of a list of field values; the rest is returned. -/
  ofItems? : List Json → Option (α × List Json)

namespace Record

variable {α β : Type}

/-- A record of one field. -/
def one (f : Field α) : Record α where
  write x := [(f.name, f.codec.encode x)]
  ofFields? := f.ofFields?
  ofItems?
    | [] => f.cutOff?.map (·, [])
    | v :: rest => (f.codec.decode? v).map (·, rest)

/-- A field in front of a record. -/
def and (f : Field α) (r : Record β) : Record (α × β) where
  write x := (f.name, f.codec.encode x.1) :: r.write x.2
  ofFields? fields := do return (← f.ofFields? fields, ← r.ofFields? fields)
  ofItems? items := do
    let (x, rest) ← (one f).ofItems? items
    let (y, rest) ← r.ofItems? rest
    return ((x, y), rest)

/-- The same fields for a type of the same shape. -/
def via (build : α → β) (parts : β → α) (r : Record α) : Record β where
  write y := r.write (parts y)
  ofFields? fields := (r.ofFields? fields).map build
  ofItems? items := (r.ofItems? items).map fun (x, rest) => (build x, rest)

/-- The fields as an object. -/
def toFields (r : Record α) (x : α) : Fields := Table.ofList (r.write x)

/-- Reads a list of field values to its end. -/
def ofAllItems? (r : Record α) (items : List Json) : Option α :=
  match r.ofItems? items with
  | some (x, []) => some x
  | _ => none

/-- Records as objects; lists of the field values are read too. -/
def codec (r : Record α) : Codec α where
  encode x := .object (r.toFields x)
  decode?
    | .object fields => r.ofFields? fields
    | .list items => r.ofAllItems? items
    | _ => none

end Record

end PingPost
