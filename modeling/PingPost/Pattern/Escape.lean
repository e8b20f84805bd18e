import PingPost.Pattern.Basic
import PingPost.Pattern.PropertyName

/-!
Flags of written patterns, and what a backslash stands for.

Where the flag `x` is set, blanks and comments may stand between any two signs, also inside an
escape. Without the flag `u` a pattern speaks of ASCII only, and whatever would match a byte beyond
ASCII is refused.
-/

namespace PingPost.Pattern

open Text

/-- The flags in force. -/
structure Flags where
  anyCase : Bool := false
  lines : Bool := false
  dotAll : Bool := false
  lazy : Bool := false
  unicode : Bool := true
  verbose : Bool := false
  carriageReturns : Bool := false
  deriving DecidableEq, Repr

/-- The opening brace. -/
def openBrace : Char := '\x7b'

/-- The closing brace. -/
def closeBrace : Char := '\x7d'

/-- Drops blanks, and comments from a hash sign to the end of the line. The flag tells that a
comment has begun. -/
def skipBlanks : Bool → List Char → List Char
  | _, [] => []
  | true, c :: cs => skipBlanks (c != '\n') cs
  | false, c :: cs =>
    if isBlank c then skipBlanks false cs else if c = '#' then skipBlanks true cs else c :: cs

/-- Drops blanks and comments where the flags say so. -/
def Flags.skip (flags : Flags) (cs : List Char) : List Char :=
  if flags.verbose then skipBlanks false cs else cs

/-- A set under the flag for case. -/
def Flags.fold (flags : Flags) (s : CharSet) : CharSet :=
  if !flags.anyCase then s else if flags.unicode then s.anyCase else s.asciiAnyCase

/-- A set under the flags, perhaps negated: letters are taken in any case before negation. -/
def Flags.close? (flags : Flags) (negated : Bool) (s : CharSet) : Option CharSet :=
  let folded := flags.fold s
  let set := if negated then folded.compl else folded
  if flags.unicode || set.isAscii then some set else none

/-- What a backslash stands for. -/
inductive Escape where
  | char (c : Char)
  | set (s : CharSet)
  | anchor (a : Anchor)

/-! ## Sets with a letter -/

/-- A range of ASCII characters. -/
def asciiRange (a b : Char) : CharSet := .range a.toNat b.toNat

/-- ASCII digits. -/
def asciiDigits : CharSet := asciiRange '0' '9'

/-- ASCII blanks. -/
def asciiBlanks : CharSet := .unions [.range 9 13, .one ' ']

/-- ASCII word characters. -/
def asciiWord : CharSet :=
  .unions [asciiDigits, asciiRange 'A' 'Z', .one '_', asciiRange 'a' 'z']

/-- The set of the letters `d`, `s` and `w`. -/
def letterSet? (flags : Flags) (c : Char) : Option CharSet :=
  match c with
  | 'd' => some (if flags.unicode then decimalDigits else asciiDigits)
  | 's' => some (if flags.unicode then PropertyRule.whiteSpace.set else asciiBlanks)
  | 'w' => some (if flags.unicode then wordCharacters else asciiWord)
  | _ => none

/-- Control characters with a letter of their own. -/
def controlEscape? (c : Char) : Option Char :=
  match c with
  | 'a' => some (Char.ofNat 7)
  | 'f' => some (Char.ofNat 12)
  | 't' => some '\t'
  | 'n' => some '\n'
  | 'r' => some '\r'
  | 'v' => some (Char.ofNat 11)
  | _ => none

/-- Characters that a backslash makes plain. -/
def isEscapable (c : Char) : Bool := c.toNat < 128 && !c.isAlphanum && c != '<' && c != '>'

/-! ## Numbers, names and boundaries -/

/-- Characters up to the first one that satisfies `p`, where blanks may be skipped after each. -/
def spanSkipping (flags : Flags) (p : Char → Bool) : Nat → List Char → List Char × List Char
  | 0, cs => ([], cs)
  | fuel + 1, cs =>
    match cs with
    | [] => ([], [])
    | c :: rest =>
      if p c then ([], c :: rest)
      else
        let (front, rest) := spanSkipping flags p fuel (flags.skip rest)
        (c :: front, rest)

/-- What stands in braces, without the blanks that the flags ignore, and what follows them. -/
def inBraces? (flags : Flags) (cs : List Char) : Option (List Char × List Char) :=
  match spanSkipping flags (· == closeBrace) cs.length (flags.skip cs) with
  | (front, _ :: rest) => some (front, rest)
  | (_, []) => none

/-- The character of a hexadecimal number. -/
def charOfHex? (ds : List Char) : Option Char := do
  let values ← ds.mapM hexValue?
  let n := digitsIn 16 values
  if values.isEmpty ∨ 0x10FFFF < n ∨ (0xD800 ≤ n ∧ n ≤ 0xDFFF) then none else some (Char.ofNat n)

/-- Hexadecimal digits of a fixed number, with blanks between them where the flags ignore those. -/
def fixedDigits? (flags : Flags) : Nat → List Char → Option (List Char × List Char)
  | 0, cs => some ([], cs)
  | _, [] => none
  | n + 1, c :: cs => (fixedDigits? flags n (flags.skip cs)).map fun (ds, rest) => (c :: ds, rest)

/-- A hexadecimal escape after its letter: in braces or with a fixed number of digits. Without the
flag `u`, two digits stand for a byte. -/
def hexEscape? (flags : Flags) (width : Nat) (cs : List Char) : Option (Char × List Char) :=
  match flags.skip cs with
  | [] => none
  | c :: rest =>
    if c = openBrace then do
      let (ds, rest) ← inBraces? flags rest
      return (← charOfHex? ds, rest)
    else do
      let (ds, rest) ← fixedDigits? flags width (c :: rest)
      let d ← charOfHex? ds
      if width = 2 ∧ !flags.unicode ∧ 0x80 ≤ d.toNat then none else some (d, rest)

/-- The two sides of the first place where one text stands in another. -/
def splitAtText? (sep : List Char) : List Char → Option (List Char × List Char)
  | [] => none
  | c :: cs =>
    if (c :: cs).take sep.length = sep then some ([], (c :: cs).drop sep.length)
    else (splitAtText? sep cs).map fun (a, b) => (c :: a, b)

/-- The set of a property in braces, and whether its sign negates it. -/
def bracedProperty? (body : List Char) : Option (CharSet × Bool) :=
  match splitAtText? ['!', '='] body with
  | some (name, value) => (propertyValue? (plainName name) (plainName value)).map (·, true)
  | none =>
    match (splitFirst? ':' body).or (splitFirst? '=' body) with
    | some (name, value) => (propertyValue? (plainName name) (plainName value)).map (·, false)
    | none => (property? (plainName body)).map (·, false)

/-- A property after its letter: one character, or a name in braces. -/
def propertyEscape? (flags : Flags) (negated : Bool) (cs : List Char) :
    Option (CharSet × List Char) :=
  match flags.skip cs with
  | [] => none
  | c :: rest => do
    if !flags.unicode ∨ c = '\\' then none
    else if c = openBrace then
      let (body, rest) ← inBraces? flags rest
      let (s, inverse) ← bracedProperty? body
      return (← flags.close? (negated != inverse) s, rest)
    else
      return (← flags.close? negated (← property? (plainName [c])), rest)

/-- A boundary of words after its letter: plain, or of a kind named in braces. Braces that do not
begin with a letter or a hyphen belong to a repetition. -/
def boundaryEscape? (flags : Flags) (cs : List Char) : Option (Anchor × List Char) :=
  let ascii := !flags.unicode
  let isNameChar (c : Char) : Bool := c.isAlpha || c == '-'
  match cs with
  | c :: rest =>
    if c = openBrace then
      let inside := flags.skip rest
      match inside.head? with
      | none => none
      | some d =>
        if !isNameChar d then some (.boundary ascii, cs)
        else
          match spanSkipping flags (!isNameChar ·) inside.length inside with
          | (name, d :: rest) =>
            if d ≠ closeBrace then none
            else match String.ofList name with
              | "start" => some (.wordStart ascii, rest)
              | "end" => some (.wordEnd ascii, rest)
              | "start-half" => some (.wordStartHalf ascii, rest)
              | "end-half" => some (.wordEndHalf ascii, rest)
              | _ => none
          | (_, []) => none
    else some (.boundary ascii, cs)
  | [] => some (.boundary ascii, [])

/-- Reads what follows a backslash. -/
def escape? (flags : Flags) (cs : List Char) : Option (Escape × List Char) :=
  match cs with
  | [] => none
  | c :: rest =>
    let ascii := !flags.unicode
    let hex (width : Nat) := (hexEscape? flags width rest).map fun (d, r) => (Escape.char d, r)
    match c with
    | 'd' | 's' | 'w' => (letterSet? flags c).map fun s => (.set s, rest)
    | 'D' | 'S' | 'W' => do
      let s ← letterSet? flags (asciiLower c)
      if flags.unicode then some (.set s.compl, rest) else none
    | 'x' => hex 2
    | 'u' => hex 4
    | 'U' => hex 8
    | 'p' => (propertyEscape? flags false rest).map fun (s, r) => (.set s, r)
    | 'P' => (propertyEscape? flags true rest).map fun (s, r) => (.set s, r)
    | 'A' => some (.anchor .textStart, rest)
    | 'z' => some (.anchor .textEnd, rest)
    | 'b' => (boundaryEscape? flags rest).map fun (a, r) => (.anchor a, r)
    | 'B' => some (.anchor (.noBoundary ascii), rest)
    | '<' => some (.anchor (.wordStart ascii), rest)
    | '>' => some (.anchor (.wordEnd ascii), rest)
    | _ =>
      match controlEscape? c with
      | some d => some (.char d, rest)
      | none => if isEscapable c then some (.char c, rest) else none

end PingPost.Pattern
