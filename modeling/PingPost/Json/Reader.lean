import PingPost.Json.Value

/-!
Reader of JSON texts.

A text is one value between white space. Nesting is limited to 127 levels. `Json.readRaw?` keeps
the fields of objects as written; `Json.read?` puts them in order, where of equal keys the last
counts.

A number without point and exponent that fits a signed or unsigned 64-bit word is an integer.
Every other number is read by one scaling: its leading digits, as many as an unsigned word
holds, become a binary64 number that is multiplied or divided once by a power of ten. Numbers
past the binary64 range are refused, and so are escapes that stand for half of a surrogate pair.
-/

namespace PingPost.Json

/-- Deepest nesting of lists and objects. -/
def maxDepth : Nat := 127

/-- Greatest unsigned 64-bit word. -/
def maxWord : Nat := Nat.pow 2 64 - 1

/-- Drops blanks between tokens. -/
def skipBlanks (cs : List Char) : List Char :=
  cs.dropWhile fun c => c == ' ' || c == '\n' || c == '\t' || c == '\r'

/-- Reads four hexadecimal digits. -/
def hex4? : List Char → Option (Nat × List Char)
  | a :: b :: c :: d :: rest => do
    let ds ← [a, b, c, d].mapM Text.hexValue?
    return (Text.digitsIn 16 ds, rest)
  | _ => none

/-- Reads the rest of a `\u` escape; a leading half of a surrogate pair needs the other half. -/
def unicodeEscape? (cs : List Char) : Option (Char × List Char) := do
  let (n, rest) ← hex4? cs
  if 0xDC00 ≤ n ∧ n ≤ 0xDFFF then none
  else if 0xD800 ≤ n ∧ n ≤ 0xDBFF then
    match rest with
    | '\\' :: 'u' :: rest =>
      let (m, rest) ← hex4? rest
      if 0xDC00 ≤ m ∧ m ≤ 0xDFFF then
        some (Char.ofNat (0x10000 + (n - 0xD800) * 0x400 + (m - 0xDC00)), rest)
      else none
    | _ => none
  else some (Char.ofNat n, rest)

/-- Reads the characters of a string up to its closing quote. -/
def stringBody? : Nat → List Char → List Char → Option (String × List Char)
  | 0, _, _ => none
  | _, _, [] => none
  | fuel + 1, acc, c :: cs =>
    if c = '"' then some (String.ofList acc.reverse, cs)
    else if c = '\\' then
      match cs with
      | 'u' :: cs => do
        let (d, cs) ← unicodeEscape? cs
        stringBody? fuel (d :: acc) cs
      | e :: cs =>
        let plain : Option Char :=
          if e = '"' ∨ e = '\\' ∨ e = '/' then some e
          else if e = 'b' then some (Char.ofNat 8)
          else if e = 'f' then some (Char.ofNat 12)
          else if e = 'n' then some '\n'
          else if e = 'r' then some '\r'
          else if e = 't' then some '\t'
          else none
        match plain with
        | some d => stringBody? fuel (d :: acc) cs
        | none => none
      | [] => none
    else if c.toNat < 32 then none
    else stringBody? fuel (c :: acc) cs

/-- As many leading digits as an unsigned word holds, with the number of digits left over. -/
def wordDigits (n : Nat) : List Char → Nat × Nat
  | [] => (n, 0)
  | c :: cs =>
    let m := 10 * n + (c.toNat - 48)
    if m ≤ maxWord then wordDigits m cs else (n, cs.length + 1)

/-- The power of ten as a binary64 number. -/
def powerOfTen (k : Nat) : Float := Float64.ofRatio false (Nat.pow 10 k) 1

/-- Scales by a power of ten in one step, or in steps of 308 on the way down; `none` past the
range. -/
def scale? (x : Float) (exponent : Int) : Nat → Option Float
  | 0 => some 0
  | steps + 1 =>
    if exponent.natAbs ≤ 308 then
      if 0 ≤ exponent then (some (x * powerOfTen exponent.natAbs)).filter Float.isFinite
      else some (x / powerOfTen exponent.natAbs)
    else if x == 0 then some x
    else if 0 ≤ exponent then none
    else scale? (x / powerOfTen 308) (exponent + 308) steps

/-- The real number of an accumulated word and exponent. -/
def scaledReal? (negative : Bool) (word : Nat) (exponent : Int) : Option Json :=
  (scale? (Float64.ofInt word) exponent 5).map fun x => ofFloat (if negative then -x else x)

/-- Reads digits, of which there must be one. -/
def digits1? (cs : List Char) : Option (List Char × List Char) :=
  match Text.takeDigits cs with
  | ([], _) => none
  | r => some r

/-- Reads an optional exponent. -/
def exponentPart? (cs : List Char) : Option (Option Int × List Char) :=
  match cs with
  | e :: rest =>
    if e = 'e' ∨ e = 'E' then do
      let (negative, rest) := match rest with
        | '-' :: r => (true, r)
        | '+' :: r => (false, r)
        | r => (false, r)
      let (ds, rest) ← digits1? rest
      let n : Int := Text.digitsValue ds
      return (some (if negative then -n else n), rest)
    else some (none, cs)
  | [] => some (none, cs)

/-- Reads an optional fraction. -/
def fractionPart? (cs : List Char) : Option (Option (List Char) × List Char) :=
  match cs with
  | '.' :: rest => (digits1? rest).map fun (ds, rest) => (some ds, rest)
  | _ => some (none, cs)

/-- Value of a numeral in its parts. -/
def numeral? (negative : Bool) (whole : List Char) (fraction : Option (List Char))
    (exponent : Option Int) : Option Json :=
  let (word, left) := wordDigits 0 whole
  match fraction, exponent with
  | none, none =>
    if left = 0 then
      if negative then
        if word = 0 ∨ Nat.pow 2 63 < word then scaledReal? true word 0 else some (.int (-word))
      else some (.int word)
    else scaledReal? negative word left
  | _, _ =>
    let ds := fraction.getD []
    let (word, dropped) := wordDigits word ds
    let e : Int := left - (ds.length - dropped : Nat) + exponent.getD 0
    if word = 0 then scaledReal? negative 0 0 else scaledReal? negative word e

/-- Reads a number without its sign. -/
def number? (negative : Bool) (cs : List Char) : Option (Json × List Char) := do
  let (whole, rest) ← digits1? cs
  if whole.length > 1 ∧ whole.head? = some '0' then none
  else
    let (fraction, rest) ← fractionPart? rest
    let (exponent, rest) ← exponentPart? rest
    let v ← numeral? negative whole fraction exponent
    return (v, rest)

/-- Drops a given text from the front. -/
def expect? (word : String) (cs : List Char) : Option (List Char) :=
  if word.toList.isPrefixOf cs then some (cs.drop word.length) else none

mutual

/-- Reads a value. The first argument bounds the number of steps, the second the nesting. -/
def value? : Nat → Nat → List Char → Option (Json × List Char)
  | 0, _, _ => none
  | fuel + 1, depth, cs =>
    match skipBlanks cs with
    | [] => none
    | c :: rest =>
      if c = 'n' then (expect? "ull" rest).map fun r => (.null, r)
      else if c = 't' then (expect? "rue" rest).map fun r => (.bool true, r)
      else if c = 'f' then (expect? "alse" rest).map fun r => (.bool false, r)
      else if c = '"' then (stringBody? (rest.length + 1) [] rest).map fun (s, r) => (.text s, r)
      else if c = '-' then number? true rest
      else if c.isDigit then number? false (c :: rest)
      else if c = '[' then
        match depth with
        | 0 => none
        | depth + 1 =>
          match skipBlanks rest with
          | ']' :: r => some (.list [], r)
          | r => (items? fuel depth r).map fun (vs, r) => (.list vs, r)
      else if c.toNat = 0x7b then
        match depth with
        | 0 => none
        | depth + 1 =>
          match skipBlanks rest with
          | [] => none
          | d :: r =>
            if d.toNat = 0x7d then some (.object [], r)
            else (members? fuel depth (d :: r)).map fun (fs, r) => (.object fs, r)
      else none

/-- Reads the items of a list up to its closing bracket. -/
def items? : Nat → Nat → List Char → Option (List Json × List Char)
  | 0, _, _ => none
  | fuel + 1, depth, cs =>
    match value? fuel depth cs with
    | none => none
    | some (v, rest) =>
      match skipBlanks rest with
      | ']' :: r => some ([v], r)
      | ',' :: r => (items? fuel depth r).map fun (vs, r) => (v :: vs, r)
      | _ => none

/-- Reads the members of an object up to its closing brace. -/
def members? : Nat → Nat → List Char → Option (List (String × Json) × List Char)
  | 0, _, _ => none
  | fuel + 1, depth, cs =>
    match skipBlanks cs with
    | '"' :: r =>
      match stringBody? (r.length + 1) [] r with
      | none => none
      | some (k, r) =>
        match skipBlanks r with
        | ':' :: r =>
          match value? fuel depth r with
          | none => none
          | some (v, r) =>
            match skipBlanks r with
            | [] => none
            | d :: r =>
              if d.toNat = 0x7d then some ([(k, v)], r)
              else if d = ',' then (members? fuel depth r).map fun (fs, r) => ((k, v) :: fs, r)
              else none
        | _ => none
    | _ => none

end

/-- Reads a text that is one value, keeping the fields of objects as written. -/
def readRaw? (s : String) : Option Json :=
  let cs := s.toList
  match value? (2 * cs.length + 2) maxDepth cs with
  | some (v, rest) => if (skipBlanks rest).isEmpty then some v else none
  | none => none

/-- Reads a text that is one value. -/
def read? (s : String) : Option Json := (readRaw? s).map canonical

end PingPost.Json
