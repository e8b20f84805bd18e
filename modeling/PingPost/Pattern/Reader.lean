import PingPost.Pattern.Bracket

/-!
Reader of the written form of patterns.

Alternatives are separated by bars; atoms may carry `*`, `+`, `?` and counted repetitions, lazy
with a further `?`. Groups may be named, may set flags, and may not look around. The flags are `i`
(any case), `m` (lines), `s` (the dot takes line breaks), `R` (carriage returns end lines), `U`
(lazy by default), `u` (all scripts) and `x` (blanks and comments ignored); they hold to the end of
their group.
-/

namespace PingPost.Pattern

open Text

/-- The reader's state: the flags, and the group names used so far. -/
structure ReadState where
  flags : Flags := {}
  names : List (List Char) := []

/-- Deepest nesting of a written pattern. -/
def maxNesting : Nat := 250

/-! ## Repetitions -/

/-- Digits with blanks among them where the flags ignore those. -/
def spreadDigits (flags : Flags) : Nat → List Char → List Char × List Char
  | 0, cs => ([], cs)
  | fuel + 1, cs =>
    match cs with
    | c :: rest =>
      if c.isDigit then
        let (ds, rest) := spreadDigits flags fuel (flags.skip rest)
        (c :: ds, rest)
      else ([], cs)
    | [] => ([], [])

/-- A number of a counted repetition, between blanks. -/
def count? (flags : Flags) (cs : List Char) : Option Nat × List Char :=
  let (ds, rest) := spreadDigits flags cs.length (cs.dropWhile isBlank)
  let rest := match rest with
    | c :: _ => if isBlank c then flags.skip (rest.dropWhile isBlank) else rest
    | [] => []
  let n := digitsValue ds
  (if ds.isEmpty ∨ Nat.pow 2 32 ≤ n then none else some n, rest)

/-- The bounds of a counted repetition after its opening brace. -/
def bounds? (flags : Flags) (cs : List Char) : Option (Nat × Option Nat × List Char) :=
  let close (low : Nat) (high : Option Nat) : List Char → Option (Nat × Option Nat × List Char)
    | c :: rest => if c = closeBrace ∧ high.all (low ≤ ·) then some (low, high, rest) else none
    | [] => none
  match count? flags (flags.skip cs) with
  | (none, _) => none
  | (some low, ',' :: rest) =>
    let rest := flags.skip rest
    if rest.head? = some closeBrace then close low none rest
    else match count? flags rest with
      | (some high, rest) => close low (some high) rest
      | (none, _) => none
  | (some low, rest) => close low (some low) rest

/-- The repetition in front of a text. -/
def repetition? (flags : Flags) (cs : List Char) : Option (Nat × Option Nat × List Char) :=
  match cs with
  | '*' :: rest => some (0, none, rest)
  | '+' :: rest => some (1, none, rest)
  | '?' :: rest => some (0, some 1, rest)
  | c :: rest =>
    if c = openBrace then
      (bounds? flags rest).map fun (low, high, rest) => (low, high, flags.skip rest)
    else none
  | [] => none

/-- Whether a repetition begins here. -/
def beginsRepetition (cs : List Char) : Bool :=
  cs.head?.any fun c => c == '*' || c == '+' || c == '?' || c == openBrace

/-- Repetitions behind an atom, any number of them. -/
def quantified? (flags : Flags) : Nat → Nested Pattern → List Char →
    Option (Nested Pattern × List Char)
  | 0, _, _ => none
  | fuel + 1, p, cs =>
    let cs := flags.skip cs
    if beginsRepetition cs then
      match repetition? flags cs with
      | none => none
      | some (low, high, rest) =>
        let (greedy, rest) := match rest with
          | '?' :: rest => (flags.lazy, rest)
          | rest => (!flags.lazy, rest)
        quantified? flags fuel ⟨repeated p.value low high greedy, p.height + 1⟩ rest
    else some (p, cs)

/-! ## Groups -/

/-- Whether a character may begin a group name. -/
def beginsName (c : Char) : Bool := c == '_' || isAlphabetic c

/-- Whether a character may stand in a group name. -/
def isInName (c : Char) : Bool :=
  c == '_' || c == '.' || c == '[' || c == ']' || isAlphanumeric c

/-- A group name that is not used yet, and the rest behind its closing angle bracket. -/
def groupName? (used : List (List Char)) (cs : List Char) : Option (List Char × List Char) := do
  let (name, rest) ← splitFirst? '>' cs
  if name.head?.any beginsName ∧ name.all isInName ∧ !used.contains name then some (name, rest)
  else none

/-- Sets one flag. -/
def Flags.with? (flags : Flags) (value : Bool) (c : Char) : Option Flags :=
  match c with
  | 'i' => some { flags with anyCase := value }
  | 'm' => some { flags with lines := value }
  | 's' => some { flags with dotAll := value }
  | 'R' => some { flags with carriageReturns := value }
  | 'U' => some { flags with lazy := value }
  | 'u' => some { flags with unicode := value }
  | 'x' => some { flags with verbose := value }
  | _ => none

/-- Reads flags up to a colon or a closing parenthesis, each at most once. -/
def flags? (flags : Flags) (value : Bool) (seen : List Char) : List Char →
    Option (Flags × Char × List Char)
  | [] => none
  | c :: rest =>
    if c = ':' ∨ c = ')' then
      if seen.head? = some '-' ∨ (c = ')' ∧ seen.isEmpty) then none else some (flags, c, rest)
    else if seen.contains c then none
    else if c = '-' then flags? flags false ('-' :: seen) rest
    else match flags.with? value c with
      | some f => flags? f value (c :: seen) rest
      | none => none

/-- What an opening parenthesis begins. -/
inductive GroupFront where
  | flags (flags : Flags)
  | plain (flags : Flags)
  | remembered (names : List (List Char))

/-- Reads the beginning of a group after its parenthesis. -/
def groupFront? (st : ReadState) (cs : List Char) : Option (GroupFront × List Char) :=
  let named (rest : List Char) : Option (GroupFront × List Char) :=
    (groupName? st.names rest).map fun (name, rest) => (.remembered (name :: st.names), rest)
  match st.flags.skip cs with
  | '?' :: '=' :: _ => none
  | '?' :: '!' :: _ => none
  | '?' :: '<' :: '=' :: _ => none
  | '?' :: '<' :: '!' :: _ => none
  | '?' :: 'P' :: '<' :: rest => named rest
  | '?' :: '<' :: rest => named rest
  | '?' :: rest =>
    match flags? st.flags true [] rest with
    | some (flags, ':', rest) => some (.plain flags, rest)
    | some (flags, _, rest) => some (.flags flags, rest)
    | none => none
  | rest => some (.remembered st.names, rest)

/-! ## Atoms -/

/-- One plain character under the flags. -/
def literal (flags : Flags) (c : Char) : Pattern := .set (flags.fold (.one c))

/-- The dot under the flags; without the flag `u` it would take single bytes. -/
def dot? (flags : Flags) : Option Pattern :=
  if !flags.unicode then none
  else if flags.dotAll then some (.set .all)
  else if flags.carriageReturns then some (.set (CharSet.ofList ['\n', '\r']).compl)
  else some (.set (CharSet.one '\n').compl)

/-- The beginning of a line or of the text. -/
def startAnchor (flags : Flags) : Anchor :=
  if !flags.lines then .textStart else if flags.carriageReturns then .anyLineStart else .lineStart

/-- The end of a line or of the text. -/
def endAnchor (flags : Flags) : Anchor :=
  if !flags.lines then .textEnd else if flags.carriageReturns then .anyLineEnd else .lineEnd

/-- Reads an atom that is no group. -/
def atom? (flags : Flags) (cs : List Char) : Option (Nested Pattern × List Char) :=
  match cs with
  | [] => none
  | '[' :: rest =>
    (bracket? flags (2 * rest.length + 2) maxNesting rest).map fun (s, rest) =>
      (⟨.set s.value, s.height⟩, rest)
  | '.' :: rest => (dot? flags).map fun p => (⟨p, 0⟩, rest)
  | '^' :: rest => some (⟨.anchor (startAnchor flags), 0⟩, rest)
  | '$' :: rest => some (⟨.anchor (endAnchor flags), 0⟩, rest)
  | '\\' :: rest =>
    match escape? flags rest with
    | some (.char c, rest) => some (⟨literal flags c, 0⟩, rest)
    | some (.set s, rest) => some (⟨.set s, 0⟩, rest)
    | some (.anchor a, rest) => some (⟨.anchor a, 0⟩, rest)
    | none => none
  | c :: rest => some (⟨literal flags c, 0⟩, rest)

/-- Several items as one: nested once more than the deepest of them, unless there is only one. -/
def gather (make : List Pattern → Pattern) (items : List (Nested Pattern)) : Nested Pattern :=
  let height := (items.map (·.height)).foldl max 0
  ⟨make (items.map (·.value)), if items.length ≤ 1 then height else height + 1⟩

mutual

/-- Reads alternatives up to a closing parenthesis or the end. The numbers bound the length of what
is read and the nesting of groups; the list holds the alternatives so far, last one first. -/
def alternatives? : Nat → Nat → ReadState → List (Nested Pattern) → List Char →
    Option (Nested Pattern × ReadState × List Char)
  | 0, _, _, _, _ => none
  | fuel + 1, depth, st, done, cs =>
    match items? fuel depth st [] cs with
    | none => none
    | some (p, st, '|' :: rest) => alternatives? fuel depth st (p :: done) rest
    | some (p, st, rest) => some (gather oneOf (p :: done).reverse, st, rest)

/-- Reads a sequence of repeated atoms; the list holds those so far, last one first. -/
def items? : Nat → Nat → ReadState → List (Nested Pattern) → List Char →
    Option (Nested Pattern × ReadState × List Char)
  | 0, _, _, _, _ => none
  | fuel + 1, depth, st, done, cs =>
    let finish (rest : List Char) := some (gather sequence done.reverse, st, rest)
    match st.flags.skip cs with
    | [] => finish []
    | c :: rest =>
      if c = '|' ∨ c = ')' then finish (c :: rest)
      else if beginsRepetition (c :: rest) then none
      else if c = '(' then
        match group? fuel depth st rest with
        | some (.inl st, rest) =>
          if beginsRepetition (st.flags.skip rest) then none
          else items? fuel depth st (⟨.empty, 0⟩ :: done) rest
        | some (.inr (p, st), rest) =>
          match quantified? st.flags (rest.length + 1) p rest with
          | some (p, rest) => items? fuel depth st (p :: done) rest
          | none => none
        | none => none
      else
        match atom? st.flags (c :: rest) with
        | none => none
        | some (p, rest) =>
          match quantified? st.flags (rest.length + 1) p rest with
          | some (p, rest) => items? fuel depth st (p :: done) rest
          | none => none

/-- Reads a group after its parenthesis: either flags for what follows, or a pattern. -/
def group? : Nat → Nat → ReadState → List Char →
    Option ((ReadState ⊕ (Nested Pattern × ReadState)) × List Char)
  | 0, _, _, _ => none
  | _, 0, _, _ => none
  | fuel + 1, depth + 1, st, cs =>
    let body (remembered : Bool) (inside : ReadState) (rest : List Char) :
        Option ((ReadState ⊕ (Nested Pattern × ReadState)) × List Char) :=
      match alternatives? fuel depth inside [] rest with
      | some (p, inside, ')' :: rest) =>
        let value := if remembered then .group p.value else p.value
        some (.inr (⟨value, p.height + 1⟩, { st with names := inside.names }), rest)
      | _ => none
    match groupFront? st cs with
    | none => none
    | some (.flags flags, rest) => some (.inl { st with flags }, rest)
    | some (.plain flags, rest) => body false { st with flags } rest
    | some (.remembered names, rest) => body true { st with names } rest

end

/-- Reads a written pattern. -/
def read? (s : String) : Option Pattern :=
  let cs := s.toList
  match alternatives? (4 * cs.length + 8) (maxNesting + 1) {} [] cs with
  | some (p, _, []) => if p.height ≤ maxNesting then some p.value else none
  | _ => none

end PingPost.Pattern
