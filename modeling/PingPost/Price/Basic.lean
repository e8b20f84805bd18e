import PingPost.Json.Codec
import PingPost.Json.Path
import PingPost.Json.Reading

/-!
Prices of accepted bids.

A buyer that accepts without naming an amount pays the base price of the service, changed by the
modifiers whose conditions hold of the lead. The lowest and the highest bid hold for every price;
the price is then rounded to cents.
-/

namespace PingPost

/-- How a modifier compares a fact of the lead with its value. -/
inductive Comparison where
  | equals
  | notEquals
  | isIn
  | greaterThan
  | lessThan
  | present
  deriving DecidableEq, Repr

/-- What a modifier does to the price. -/
inductive Adjustment where
  | add (amount : Finite)
  | multiply (factor : Finite)

/-- A change of the price under a condition. -/
structure PriceModifier where
  field : String
  comparison : Comparison
  value : Json
  adjustment : Adjustment

/-- What a service pays. -/
structure Pricing where
  basePrice : Finite
  minBid : Option Finite
  maxBid : Option Finite
  modifiers : List PriceModifier

/-- Price of an accepted bid. -/
inductive BidPrice where
  /-- A usable amount. -/
  | amount (x : Float)
  /-- An amount below the lowest bid. -/
  | belowFloor (x : Float)
  /-- No amount, and no positive base price. -/
  | unpriced

/-- Enumeration of the comparisons. -/
def Comparison.codec : Codec Comparison := .names [
  ("equals", .equals), ("notEquals", .notEquals), ("in", .isIn), ("greaterThan", .greaterThan),
  ("lessThan", .lessThan), ("exists", .present)]

namespace Adjustment

/-- Enumeration of the kinds; `true` stands for a factor. -/
def kindCodec : Codec Bool := .names [("add", false), ("multiply", true)]

/-- An adjustment of a kind. -/
def ofKind (isFactor : Bool) (x : Finite) : Adjustment := if isFactor then .multiply x else .add x

/-- The kind and the number. -/
def parts : Adjustment → Bool × Finite
  | .add x => (false, x)
  | .multiply x => (true, x)

/-- The fields of an adjustment. -/
def record : Record Adjustment :=
  (Record.and (.required "type" kindCodec) <| .one (.required "amount" .number)).via
    (fun (isFactor, x) => ofKind isFactor x) parts

/-- Adjustments as documents. -/
def codec : Codec Adjustment := record.codec

end Adjustment

namespace PriceModifier

/-- The fields of a modifier. -/
def record : Record PriceModifier :=
  (Record.and (.required "field" .text) <|
    .and (.required "operator" Comparison.codec) <|
    .and (.withDefault "value" .value .null) <|
    .one (.required "adjustment" Adjustment.codec)).via
    (fun (field, comparison, value, adjustment) => ⟨field, comparison, value, adjustment⟩)
    (fun m => (m.field, m.comparison, m.value, m.adjustment))

/-- Compares two numeric readings. -/
def compareNumbers (op : Float → Float → Bool) (actual : Option Json) (expected : Json) : Bool :=
  match actual.bind Json.asNumber?, expected.asNumber? with
  | some a, some b => op a b
  | _, _ => false

/-- Whether the condition holds of the facts of a lead; `null` counts as absent. -/
def applies (m : PriceModifier) (facts : Json) : Bool :=
  let actual := (facts.lookup? m.field).filter fun v => !v.isNull
  match m.comparison with
  | .present => actual.isSome
  | .equals => actual.any fun a => a.looselyEqual m.value
  | .notEquals => !actual.any fun a => a.looselyEqual m.value
  | .isIn =>
    match m.value with
    | .list options => actual.any fun a => options.any a.looselyEqual
    | _ => false
  | .greaterThan => compareNumbers (fun a b => b < a) actual m.value
  | .lessThan => compareNumbers (fun a b => a < b) actual m.value

/-- The price after the modifier. -/
def adjust (m : PriceModifier) (price : Float) : Float :=
  match m.adjustment with
  | .add x => price + x.val
  | .multiply x => price * x.val

end PriceModifier

namespace Pricing

/-- Nothing is paid, and nothing is bounded. -/
def standard : Pricing := ⟨⟨0.0, by decide⟩, none, none, []⟩

/-- The fields of the prices. -/
def record : Record Pricing :=
  (Record.and (.withDefault "basePrice" .number standard.basePrice) <|
    .and (.optional "minBid" .number) <|
    .and (.optional "maxBid" .number) <|
    .one (.withDefault "modifiers" (.list PriceModifier.record.codec) [])).via
    (fun (base, low, high, modifiers) => ⟨base, low, high, modifiers⟩)
    (fun p => (p.basePrice, p.minBid, p.maxBid, p.modifiers))

/-- Prices as documents. -/
def codec : Codec Pricing := record.codec

/-- Base price after the modifiers that apply, in order. -/
def fallback (p : Pricing) (facts : Json) : Float :=
  (p.modifiers.filter fun m => m.applies facts).foldl
    (fun price m => m.adjust price) p.basePrice.val

/-- A number of whole cents near an amount. -/
def roundCents (x : Float) : Float := Float64.round (x * 100) / 100

/-- Lowers an amount to the highest bid. -/
def cap (p : Pricing) (x : Float) : Float :=
  match p.maxBid with
  | some high => if high.val < x then high.val else x
  | none => x

/-- Price of an amount under the lowest and the highest bid. -/
def clamp (p : Pricing) (x : Float) : BidPrice :=
  match p.minBid with
  | some low => if x < low.val then .belowFloor x else .amount (roundCents (p.cap x))
  | none => .amount (roundCents (p.cap x))

/-- Price of an accepted bid; without an amount the base price stands in when it is positive. -/
def price (p : Pricing) (amount : Option Float) (facts : Json) : BidPrice :=
  match amount with
  | some x => p.clamp x
  | none =>
    let x := p.fallback facts
    if x ≤ 0 then .unpriced else p.clamp x

end Pricing

end PingPost
