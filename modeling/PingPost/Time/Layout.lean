import PingPost.Time.Text

/-!
Date layouts with percent directives.

A directive is a percent sign, an optional padding mark (`-` none, `0` zeros, `_` blanks) and a
letter. A padding mark is allowed only on a directive that stands for one number. A layout with a
directive that is not in the table is refused as a whole. One directive, `%#z`, is in the table for
reading only: a layout with it is in order, but no instant can be written in it.
-/

namespace PingPost.Layout

/-- What stands in front of a number that is too short. -/
inductive Padding where
  | bare
  | zero
  | blank
  deriving DecidableEq, Repr

/-- The numbers of an instant. -/
inductive Quantity where
  | year | century | yearOfCentury | isoYear | isoYearOfCentury | quarter | month | day
  | weekFromSunday | weekFromMonday | isoWeek | daysFromSunday | dayFromMonday | ordinal
  | hour | hour12 | minute | second | nanosecond | timestamp
  deriving DecidableEq, Repr

/-- The words and fixed forms of an instant. -/
inductive Form where
  | shortMonth | longMonth | shortWeekday | longWeekday | lowerHalf | upperHalf | zone
  | offset | offsetColon | offsetSeconds | offsetHours | rfc3339
  | fraction
  | pointed (places : Nat)
  | bare (places : Nat)
  deriving DecidableEq, Repr

/-- One item of a layout. -/
inductive Item where
  | literal (s : String)
  | number (q : Quantity) (padding : Padding)
  | form (f : Form)
  /-- An offset in any of its forms, which can be read but not written. -/
  | anyOffset
  deriving DecidableEq, Repr

/-- A number padded with zeros. -/
private def zeroed (q : Quantity) : Item := .number q .zero

/-- A number padded with blanks. -/
private def blanked (q : Quantity) : Item := .number q .blank

/-- Hours, minutes and seconds. -/
private def clock : List Item :=
  [zeroed .hour, .literal ":", zeroed .minute, .literal ":", zeroed .second]

/-- The items of a letter. -/
def directive? (c : Char) : Option (List Item) :=
  match c with
  | 'A' => some [.form .longWeekday]
  | 'B' => some [.form .longMonth]
  | 'C' => some [zeroed .century]
  | 'D' | 'x' =>
    some [zeroed .month, .literal "/", zeroed .day, .literal "/", zeroed .yearOfCentury]
  | 'F' => some [zeroed .year, .literal "-", zeroed .month, .literal "-", zeroed .day]
  | 'G' => some [zeroed .isoYear]
  | 'H' => some [zeroed .hour]
  | 'I' => some [zeroed .hour12]
  | 'M' => some [zeroed .minute]
  | 'P' => some [.form .lowerHalf]
  | 'R' => some [zeroed .hour, .literal ":", zeroed .minute]
  | 'S' => some [zeroed .second]
  | 'T' | 'X' => some clock
  | 'U' => some [zeroed .weekFromSunday]
  | 'V' => some [zeroed .isoWeek]
  | 'W' => some [zeroed .weekFromMonday]
  | 'Y' => some [zeroed .year]
  | 'Z' => some [.form .zone]
  | 'a' => some [.form .shortWeekday]
  | 'b' | 'h' => some [.form .shortMonth]
  | 'c' => some ([.form .shortWeekday, .literal " ", .form .shortMonth, .literal " ",
      blanked .day, .literal " "] ++ clock ++ [.literal " ", zeroed .year])
  | 'd' => some [zeroed .day]
  | 'e' => some [blanked .day]
  | 'f' => some [zeroed .nanosecond]
  | 'g' => some [zeroed .isoYearOfCentury]
  | 'j' => some [zeroed .ordinal]
  | 'k' => some [blanked .hour]
  | 'l' => some [blanked .hour12]
  | 'm' => some [zeroed .month]
  | 'n' => some [.literal "\n"]
  | 'p' => some [.form .upperHalf]
  | 'q' => some [.number .quarter .bare]
  | 'r' => some [zeroed .hour12, .literal ":", zeroed .minute, .literal ":", zeroed .second,
      .literal " ", .form .upperHalf]
  | 's' => some [.number .timestamp .bare]
  | 't' => some [.literal "\t"]
  | 'u' => some [.number .dayFromMonday .bare]
  | 'v' => some [blanked .day, .literal "-", .form .shortMonth, .literal "-", zeroed .year]
  | 'w' => some [.number .daysFromSunday .bare]
  | 'y' => some [zeroed .yearOfCentury]
  | 'z' => some [.form .offset]
  | '+' => some [.form .rfc3339]
  | '%' => some [.literal "%"]
  | _ => none

/-- Digits of a fixed fraction. -/
def places? (c : Char) : Option Nat :=
  match c with
  | '3' => some 3
  | '6' => some 6
  | '9' => some 9
  | _ => none

/-- A directive without its percent sign, and the rest of the layout. -/
def bareDirective? (cs : List Char) : Option (List Item × List Char) :=
  match cs with
  | ':' :: ':' :: ':' :: 'z' :: r => some ([.form .offsetHours], r)
  | ':' :: ':' :: 'z' :: r => some ([.form .offsetSeconds], r)
  | ':' :: 'z' :: r => some ([.form .offsetColon], r)
  | '.' :: 'f' :: r => some ([.form .fraction], r)
  | '.' :: d :: 'f' :: r => (places? d).map fun n => ([.form (.pointed n)], r)
  | c :: r =>
    match places? c, r with
    | some n, 'f' :: r => some ([.form (.bare n)], r)
    | some _, _ => none
    | none, r => (directive? c).map fun items => (items, r)
  | [] => none

/-- Applies a padding mark, allowed on a single number only. -/
def pad? (p : Padding) : List Item → Option (List Item)
  | [.number q _] => some [.number q p]
  | _ => none

/-- A directive with its padding mark. -/
def markedDirective? (cs : List Char) : Option (List Item × List Char) :=
  let marked (p : Padding) (r : List Char) : Option (List Item × List Char) := do
    let (items, r) ← bareDirective? r
    return (← pad? p items, r)
  match cs with
  | '-' :: r => marked .bare r
  | '0' :: r => marked .zero r
  | '_' :: r => marked .blank r
  | '#' :: 'z' :: r => some ([.anyOffset], r)
  | r => bareDirective? r

/-- The items of a layout; the first argument bounds the steps. -/
def items? : Nat → List Char → Option (List Item)
  | _, [] => some []
  | 0, _ => none
  | fuel + 1, c :: r =>
    if c = '%' then
      match markedDirective? r with
      | some (items, r) => (items? fuel r).map (items ++ ·)
      | none => none
    else (items? fuel r).map (.literal c.toString :: ·)

/-- Reads a layout. -/
def ofText? (s : String) : Option (List Item) := items? s.toList.length s.toList

/-- Names of the months. -/
def monthNames : List String :=
  ["January", "February", "March", "April", "May", "June", "July", "August", "September",
    "October", "November", "December"]

/-- Names of the days of the week, from Monday. -/
def weekdayNames : List String :=
  ["Monday", "Tuesday", "Wednesday", "Thursday", "Friday", "Saturday", "Sunday"]

/-- A number of one byte in two places. Its tens are written as the character that many places
after `0`, which is a digit only below one hundred. -/
def twoPlaces (p : Padding) (n : Nat) : String :=
  let n := n % 256
  let ones := (Char.ofNat (48 + n % 10)).toString
  if n / 10 = 0 then
    match p with
    | .bare => ones
    | .blank => " " ++ ones
    | .zero => "0" ++ ones
  else (Char.ofNat (48 + n / 10)).toString ++ ones

/-- A signed number in a width; `always` writes a plus sign too, which widens the field by one. -/
def wide (width : Nat) (always : Bool) (p : Padding) (n : Int) : String :=
  let width := if always then width + 1 else width
  let sign := if n < 0 then "-" else if always then "+" else ""
  let digits := toString n.natAbs
  let gap := width - sign.length - digits.length
  match p with
  | .bare => sign ++ digits
  | .zero => sign ++ String.ofList (List.replicate gap '0') ++ digits
  | .blank => String.ofList (List.replicate gap ' ') ++ sign ++ digits

/-- A year in four places; outside 0 to 9999 with a sign. -/
def yearPlaces (p : Padding) (year : Int) : String := wide 4 (year < 0 || 9999 < year) p year

/-- Text of a number of an instant. -/
def quantityText (t : Instant) (p : Padding) : Quantity → String
  | .year => yearPlaces p t.date.year
  | .century => twoPlaces p ((t.date.year.fdiv 100).emod 256).toNat
  | .yearOfCentury => twoPlaces p (t.date.year.emod 100).toNat
  | .isoYear => yearPlaces p t.date.isoWeek.1
  | .isoYearOfCentury => twoPlaces p (t.date.isoWeek.1.emod 100).toNat
  | .quarter => toString ((t.date.month - 1) / 3 + 1)
  | .month => twoPlaces p t.date.month
  | .day => twoPlaces p t.date.day
  | .weekFromSunday => twoPlaces p (t.date.weekFrom 0)
  | .weekFromMonday => twoPlaces p (t.date.weekFrom 1)
  | .isoWeek => twoPlaces p t.date.isoWeek.2
  | .daysFromSunday => toString ((t.date.weekday + 1) % 7)
  | .dayFromMonday => toString (t.date.weekday + 1)
  | .ordinal => wide 3 false p t.date.ordinal
  | .hour => twoPlaces p t.hour
  | .hour12 => twoPlaces p (if t.hour % 12 = 0 then 12 else t.hour % 12)
  | .minute => twoPlaces p t.minute
  | .second => twoPlaces p t.second
  | .nanosecond => wide 9 false p t.subsecond
  | .timestamp => wide 9 false p t.seconds

/-- Leading digits of the nanoseconds. -/
def leadingDigits (t : Instant) (places : Nat) : String :=
  Text.padZero places (t.subsecond / Nat.pow 10 (9 - places))

/-- Text of a word or fixed form. -/
def formText (t : Instant) : Form → String
  | .shortMonth => String.ofList ((monthNames.getD (t.date.month - 1) "").toList.take 3)
  | .longMonth => monthNames.getD (t.date.month - 1) ""
  | .shortWeekday => String.ofList ((weekdayNames.getD t.date.weekday "").toList.take 3)
  | .longWeekday => weekdayNames.getD t.date.weekday ""
  | .lowerHalf => if t.hour < 12 then "am" else "pm"
  | .upperHalf => if t.hour < 12 then "AM" else "PM"
  | .zone => "UTC"
  | .offset => "+0000"
  | .offsetColon => "+00:00"
  | .offsetSeconds => "+00:00:00"
  | .offsetHours => "+00"
  | .rfc3339 => TimeText.clockText t ++ TimeText.fractionText t ++ "+00:00"
  | .fraction => TimeText.fractionText t
  | .pointed n => "." ++ leadingDigits t n
  | .bare n => leadingDigits t n

/-- Text of an item that can be written. -/
def Item.text? (t : Instant) : Item → Option String
  | .literal s => some s
  | .number q p => some (quantityText t p q)
  | .form f => some (formText t f)
  | .anyOffset => none

/-- An instant in a layout; `none` if an item cannot be written. -/
def render? (items : List Item) (t : Instant) : Option String :=
  (items.mapM (Item.text? t)).map String.join

/-- A layout can be written unless it asks for an offset in any form. -/
theorem render?_eq_none_iff {items : List Item} {t : Instant} :
    render? items t = none ↔ .anyOffset ∈ items := by
  rw [render?, Option.map_eq_none_iff]
  induction items with
  | nil => simp
  | cons item items ih =>
    rw [List.mapM_cons, List.mem_cons, ← ih]
    cases item with
    | anyOffset => simp [Item.text?]
    | literal | number | form => cases items.mapM (Item.text? t) <;> simp [Item.text?]

end PingPost.Layout
