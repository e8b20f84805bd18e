import PingPost.Buyer.Basic
import PingPost.Lead.Basic

/-!
The registry of buyers, and which of them may be offered a lead.

A registry keeps every buyer under its own id, and there is no other way to build one. A lead may
be offered to an active buyer with an active service of the lead's type whose restrictions the
lead meets. Buyers come by the priority of that service, then by their ids.
-/

namespace PingPost

/-- Whether a text begins with another. -/
def Text.startsWith (s front : String) : Bool := front.toList.isPrefixOf s.toList

/-- Whether a lead meets the restrictions. -/
def Restrictions.admit (r : Restrictions) (lead : Lead) : Bool :=
  (r.zipPrefixes.isEmpty ||
    r.zipPrefixes.any fun p => Text.startsWith (Text.trim lead.zipCode) (Text.trim p)) &&
  (!r.trustedForm || lead.compliance.any (·.hasTrustedForm)) &&
  (!r.jornaya || lead.compliance.any (·.hasJornaya)) &&
  (!r.consent || lead.compliance.any (·.consent))

/-- The service under which a lead may be offered to a buyer. -/
def Buyer.serviceFor? (b : Buyer) (lead : Lead) : Option Service :=
  if b.active then
    (b.service? lead.serviceType).filter fun s =>
      s.active && s.restrictions.all fun r => r.admit lead
  else none

/-- The buyers by id. -/
structure Registry where
  entries : Table String Buyer
  ordered : entries.Ordered
  keyed : ∀ e ∈ entries, e.2.id = e.1

namespace Registry

/-- A registry without buyers. -/
def empty : Registry := ⟨[], .nil, by simp⟩

/-- The buyer of an id. -/
def get? (r : Registry) (id : String) : Option Buyer := r.entries.get? id

/-- Whether an id has a buyer. -/
def has (r : Registry) (id : String) : Bool := r.entries.has id

/-- How many buyers there are. -/
def length (r : Registry) : Nat := r.entries.length

/-- Whether there is no buyer. -/
def isEmpty (r : Registry) : Bool := r.entries.isEmpty

/-- Registers a buyer in place of any other of the same id. -/
def upsert (r : Registry) (b : Buyer) : Registry where
  entries := r.entries.put b.id b
  ordered := r.ordered.put b.id b
  keyed := by
    intro e he
    rcases Table.mem_put he with rfl | he
    · rfl
    · exact r.keyed e he

/-- Drops the buyer of an id. -/
def erase (r : Registry) (id : String) : Registry where
  entries := r.entries.erase id
  ordered := r.ordered.erase id
  keyed e he := r.keyed e (Table.mem_erase.mp he).1

/-- The registry of some buyers, of which the last of an id counts. -/
def ofBuyers (bs : List Buyer) : Registry := bs.foldl upsert empty

/-- The buyer of an id and the service under which a lead may be offered to it. -/
def standing? (r : Registry) (id : String) (lead : Lead) : Option (Buyer × Service) :=
  (r.get? id).bind fun b => (b.serviceFor? lead).map fun s => (b, s)

/-- Whether a lead may be offered to a buyer. -/
def isEligible (r : Registry) (id : String) (lead : Lead) : Bool :=
  (r.get? id).any fun b => (b.serviceFor? lead).isSome

/-- Whether one candidate comes before another. -/
def precedes (a b : Nat × Buyer) : Bool :=
  if a.1 ≠ b.1 then b.1 < a.1 else a.2.id ≤ b.2.id

/-- The buyers a lead may be offered to, with the priorities of their services. -/
def candidates (r : Registry) (lead : Lead) : List (Nat × Buyer) :=
  r.entries.filterMap fun (_, b) => (b.serviceFor? lead).map fun s => (s.priority, b)

/-- The buyers a lead may be offered to, in order. -/
def eligible (r : Registry) (lead : Lead) : List Buyer :=
  ((r.candidates lead).mergeSort precedes).map (·.2)

/-- Reads a registry from the text of a list of buyers. -/
def ofText? (text : String) : Option Registry :=
  (Json.readRaw? text).bind fun v => ((Codec.list Buyer.codec).decode? v).map ofBuyers

theorem get?_upsert_self (r : Registry) (b : Buyer) : (r.upsert b).get? b.id = some b :=
  Table.get?_put_self b.id b r.entries

theorem get?_upsert_of_ne {id : String} {b : Buyer} (h : id ≠ b.id) (r : Registry) :
    (r.upsert b).get? id = r.get? id :=
  Table.get?_put_of_ne h b r.entries

/-- A buyer is found under its own id only. -/
theorem id_of_get? {r : Registry} {id : String} {b : Buyer} (h : r.get? id = some b) :
    b.id = id :=
  r.keyed _ (Table.mem_of_get? h)

theorem id_of_standing? {r : Registry} {id : String} {lead : Lead} {b : Buyer} {s : Service}
    (h : r.standing? id lead = some (b, s)) : b.id = id := by
  simp only [standing?, Option.bind_eq_some_iff, Option.map_eq_some_iff, Prod.mk.injEq] at h
  obtain ⟨b', hb, s', -, rfl, rfl⟩ := h
  exact id_of_get? hb

theorem isSome_standing? (r : Registry) (id : String) (lead : Lead) :
    (r.standing? id lead).isSome = r.isEligible id lead := by
  unfold standing? isEligible
  cases r.get? id with
  | none => rfl
  | some b => simp

end Registry

end PingPost
