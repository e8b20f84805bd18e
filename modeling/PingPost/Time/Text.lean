import PingPost.Time.Instant
import PingPost.Text.Blank
import PingPost.Text.Digits

/-!
Texts of instants and dates.

`Instant.ofRfc3339?` is strict: fixed digit counts, `T`, `t` or a space between date and time,
and an offset of less than a day. `Instant.ofRelaxed?` also takes single digits, signed years and
white space between the parts. `CivilDate.ofFields?` reads the two bare date forms. The printers
write universal time with `Z`.
-/

namespace PingPost

namespace TimeText

open Text

/-- Drops white space in front. -/
def skip (cs : List Char) : List Char := cs.dropWhile isBlank

/-- Reads from `low` to `high` digits, as many as there are. -/
def number? (low high : Nat) (cs : List Char) : Option (Nat × List Char) :=
  let ds := (cs.take high).takeWhile Char.isDigit
  if ds.length < low then none else some (digitsValue ds, cs.drop ds.length)

/-- Drops one given character. -/
def char? (c : Char) : List Char → Option (List Char)
  | d :: cs => if c = d then some cs else none
  | [] => none

/-- A year: up to four digits, or any number of digits after a sign. -/
def year? (cs : List Char) : Option (Int × List Char) :=
  match skip cs with
  | '-' :: r => (number? 1 r.length r).map fun (n, r) => (-(n : Int), r)
  | '+' :: r => (number? 1 r.length r).map fun (n, r) => ((n : Int), r)
  | r => (number? 1 4 r).map fun (n, r) => ((n : Int), r)

/-- One or two digits after optional white space. -/
def field? (cs : List Char) : Option (Nat × List Char) := number? 1 2 (skip cs)

/-- Nanoseconds after a point: the first nine digits count, further ones are dropped. -/
def fraction? (cs : List Char) : Option (Nat × List Char) :=
  match cs with
  | '.' :: r =>
    let ds := (r.take 9).takeWhile Char.isDigit
    if ds.isEmpty then none
    else
      some (digitsValue ds * Nat.pow 10 (9 - ds.length), (r.drop ds.length).dropWhile Char.isDigit)
  | _ => some (0, cs)

/-- Seconds east of universal time: `Z`, or a sign, two digits, a separator and two digits. -/
def offset? (separator : List Char → Option (List Char)) (cs : List Char) :
    Option (Int × List Char) :=
  let signed (negative : Bool) (r : List Char) : Option (Int × List Char) := do
    let (hours, r) ← number? 2 2 r
    let r ← separator r
    let (minutes, r) ← number? 2 2 r
    if 59 < minutes then none
    else
      let s : Int := hours * 3600 + minutes * 60
      return (if negative then -s else s, r)
  match cs with
  | c :: r =>
    if c = 'Z' ∨ c = 'z' then some (0, r)
    else if c = '+' then signed false r
    else if c = '-' ∨ c.toNat = 0x2212 then signed true r
    else none
  | [] => none

/-- The instant of a local date and time at an offset. Second 60 is a leap second. -/
def assemble? (date : CivilDate) (hour minute second nanos : Nat) (offset : Int) :
    Option Instant :=
  if date.isValid ∧ hour < 24 ∧ minute < 60 ∧ second ≤ 60 ∧ offset.natAbs < 86400 then
    let clock : Nat := hour * 3600 + minute * 60 + min second 59
    let t : Instant :=
      { seconds := date.toDays * Instant.secondsPerDay + clock - offset
        nanos := nanos + if second = 60 then Instant.nanosPerSecond else 0 }
    if t.isRepresentable then some t else none
  else none

/-- A separator between date and time. -/
def between? : List Char → Option (List Char)
  | c :: r => if c = 'T' ∨ c = 't' ∨ c = ' ' then some r else none
  | [] => none

/-- Strict date and time. -/
def strict? (cs : List Char) : Option Instant := do
  let (year, r) ← number? 4 4 cs
  let (month, r) ← number? 2 2 (← char? '-' r)
  let (day, r) ← number? 2 2 (← char? '-' r)
  let (hour, r) ← number? 2 2 (← between? r)
  let (minute, r) ← number? 2 2 (← char? ':' r)
  let (second, r) ← number? 2 2 (← char? ':' r)
  let (nanos, r) ← fraction? r
  let (offset, r) ← offset? (char? ':') r
  if r.isEmpty then assemble? ⟨year, month, day⟩ hour minute second nanos offset else none

/-- The letters that may stand for universal time in the relaxed form. -/
def utc? (cs : List Char) : Option (List Char) :=
  if (cs.take 3).map asciiLower = ['u', 't', 'c'] then some (cs.drop 3) else none

/-- Relaxed date and time. -/
def relaxed? (cs : List Char) : Option Instant := do
  let (year, r) ← year? cs
  let (month, r) ← field? (← char? '-' (skip r))
  let (day, r) ← field? (← char? '-' (skip r))
  let (hour, r) ← field? (← between? r)
  let (minute, r) ← field? (← char? ':' (skip r))
  let (second, r) ← field? (← char? ':' (skip r))
  let (nanos, r) ← fraction? r
  let r := skip r
  let (offset, r) ← match utc? r with
    | some r => some (0, r)
    | none => offset? (fun r => some (r.dropWhile fun c => c == ':' || isBlank c)) r
  if (skip r).isEmpty then assemble? ⟨year, month, day⟩ hour minute second nanos offset else none

/-- A date as year, month and day with hyphens between. -/
def hyphenDate? (cs : List Char) : Option CivilDate := do
  let (year, r) ← year? cs
  let (month, r) ← field? (← char? '-' r)
  let (day, r) ← field? (← char? '-' r)
  if r.isEmpty then (some (CivilDate.mk year month day)).filter CivilDate.isValid else none

/-- A date as month, day and year with slashes between. -/
def slashDate? (cs : List Char) : Option CivilDate := do
  let (month, r) ← field? cs
  let (day, r) ← field? (← char? '/' r)
  let (year, r) ← year? (← char? '/' r)
  if r.isEmpty then (some (CivilDate.mk year month day)).filter CivilDate.isValid else none

/-- A year: four digits from 0 to 9999, else a sign and at least four digits. -/
def yearText (year : Int) : String :=
  if 0 ≤ year ∧ year ≤ 9999 then padZero 4 year.toNat
  else (if year < 0 then "-" else "+") ++ padZero 4 year.natAbs

/-- Date and time without a fraction and zone. -/
def clockText (t : Instant) : String :=
  let d := t.date
  s!"{yearText d.year}-{padZero 2 d.month}-{padZero 2 d.day}T" ++
    s!"{padZero 2 t.hour}:{padZero 2 t.minute}:{padZero 2 t.second}"

/-- Fraction of a second in the fewest groups of three digits that hold it; none when zero. -/
def fractionText (t : Instant) : String :=
  let n := t.subsecond
  if n = 0 then ""
  else if n % 1000000 = 0 then "." ++ padZero 3 (n / 1000000)
  else if n % 1000 = 0 then "." ++ padZero 6 (n / 1000)
  else "." ++ padZero 9 n

end TimeText

namespace Instant

/-- Reads the strict form. -/
def ofRfc3339? (s : String) : Option Instant := TimeText.strict? s.toList

/-- Reads the relaxed form. -/
def ofRelaxed? (s : String) : Option Instant := TimeText.relaxed? s.toList

/-- Text to the second. -/
def toRfc3339 (t : Instant) : String := TimeText.clockText t ++ "Z"

/-- Text with the fraction of the second. -/
def toRfc3339Full (t : Instant) : String := TimeText.clockText t ++ TimeText.fractionText t ++ "Z"

/-- Text to the millisecond. -/
def toRfc3339Millis (t : Instant) : String :=
  TimeText.clockText t ++ "." ++ Text.padZero 3 (t.subsecond / 1000000) ++ "Z"

end Instant

/-- Reads a bare date in one of the two forms. -/
def CivilDate.ofText? (s : String) : Option CivilDate :=
  (TimeText.hyphenDate? s.toList).or (TimeText.slashDate? s.toList)

end PingPost
