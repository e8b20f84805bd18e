import PingPost.Pattern.Escape

/-!
Sets of characters in brackets.

A set lists characters, ranges, named classes and further sets; `&&`, `--` and `~~` combine what
stands on their two sides, all three from left to right. Case is disregarded in each operand before
the sets are combined, and in the whole set before it is negated.
-/

namespace PingPost.Pattern

open Text

/-- A piece of a written pattern: what it means, and how deeply it is nested. -/
structure Nested (α : Type) where
  value : α
  height : Nat := 0
  deriving Repr

/-- Named ASCII classes. -/
def bracketClass? (name : List Char) : Option CharSet :=
  match String.ofList name with
  | "alnum" => some (.unions [asciiDigits, asciiRange 'A' 'Z', asciiRange 'a' 'z'])
  | "alpha" => some (.unions [asciiRange 'A' 'Z', asciiRange 'a' 'z'])
  | "ascii" => some (.range 0 127)
  | "blank" => some (.ofList ['\t', ' '])
  | "cntrl" => some (.unions [.range 0 31, .range 127 127])
  | "digit" => some asciiDigits
  | "graph" => some (.range 33 126)
  | "lower" => some (asciiRange 'a' 'z')
  | "print" => some (.range 32 126)
  | "punct" => some (.unions [.range 33 47, .range 58 64, .range 91 96, .range 123 126])
  | "space" => some asciiBlanks
  | "upper" => some (asciiRange 'A' 'Z')
  | "word" => some asciiWord
  | "xdigit" => some (.unions [asciiDigits, asciiRange 'A' 'F', asciiRange 'a' 'f'])
  | _ => none

/-- A named class after its opening bracket, perhaps negated; none if the bracket opens an ordinary
set. -/
def namedClass? (cs : List Char) : Option (CharSet × Bool × List Char) :=
  match cs with
  | ':' :: rest =>
    let (negated, rest) := match rest with
      | '^' :: rest => (true, rest)
      | rest => (false, rest)
    match splitFirst? ':' rest with
    | some (name, ']' :: rest) => (bracketClass? name).map fun s => (s, negated, rest)
    | _ => none
  | _ => none

/-- An item of a set. -/
inductive BracketItem where
  | char (c : Char)
  | set (s : CharSet)

/-- A character or an escape. Without the flag `u` only ASCII characters may be listed. -/
def bracketItem? (flags : Flags) (cs : List Char) : Option (BracketItem × List Char) :=
  let plain (c : Char) (rest : List Char) : Option (BracketItem × List Char) :=
    if flags.unicode || c.toNat < 128 then some (.char c, rest) else none
  match cs with
  | [] => none
  | '\\' :: rest =>
    match escape? flags rest with
    | some (.char c, rest) => plain c rest
    | some (.set s, rest) => some (.set s, rest)
    | _ => none
  | c :: rest => plain c rest

/-- The first character behind a hyphen that is neither a blank nor the hash sign of a comment,
where the flags ignore those. -/
def peekBehind (flags : Flags) (cs : List Char) : Option Char :=
  if !flags.verbose then cs.head?
  else
    match cs.dropWhile isBlank with
    | '#' :: rest => ((rest.dropWhile isBlank).head?).or cs.head?
    | c :: _ => some c
    | [] => cs.head?

/-- Reads a character, a range or an escape. -/
def bracketRange? (flags : Flags) (cs : List Char) : Option (CharSet × List Char) := do
  let (item, rest) ← bracketItem? flags cs
  let rest := flags.skip rest
  let behind := match rest with
    | '-' :: behind => some behind
    | _ => none
  let isRange := behind.any fun b =>
    let d := peekBehind flags b
    d != some ']' && d != some '-'
  match item, behind with
  | .char c, some behind =>
    if isRange then
      match ← bracketItem? flags (flags.skip behind) with
      | (.char d, rest) => if c.toNat ≤ d.toNat then some (.range c.toNat d.toNat, rest) else none
      | _ => none
    else some (.one c, rest)
  | .char c, none => some (.one c, rest)
  | .set s, _ => if isRange then none else some (s, rest)

/-- Items of a set so far: their union, how many there are, and the deepest nesting among them. -/
structure Listed where
  sets : List CharSet := []
  count : Nat := 0
  height : Nat := 0

/-- Adds an item. -/
def Listed.add (l : Listed) (s : Nested CharSet) : Listed :=
  ⟨s.value :: l.sets, l.count + 1, max l.height s.height⟩

/-- The items as one operand. -/
def Listed.operand (l : Listed) : Nested CharSet :=
  ⟨.unions l.sets, if l.count ≤ 1 then l.height else l.height + 1⟩

/-- Operators between sets. -/
inductive SetOperator where
  | inter
  | diff
  | symmDiff
  deriving DecidableEq, Repr

/-- An operator in front of a text. -/
def setOperator? : List Char → Option (SetOperator × List Char)
  | '&' :: '&' :: rest => some (.inter, rest)
  | '-' :: '-' :: rest => some (.diff, rest)
  | '~' :: '~' :: rest => some (.symmDiff, rest)
  | _ => none

/-- Combines two operands, each in any case where the flags say so. -/
def SetOperator.apply (flags : Flags) (op : SetOperator) (s t : Nested CharSet) : Nested CharSet :=
  let a := flags.fold s.value
  let b := flags.fold t.value
  let value := match op with
    | .inter => a.inter b
    | .diff => a.diff b
    | .symmDiff => a.symmDiff b
  ⟨value, max s.height t.height + 1⟩

/-- Combines the items so far with what stands in front of a pending operator. -/
def settle (flags : Flags) (pending : Option (Nested CharSet × SetOperator)) (l : Listed) :
    Nested CharSet :=
  match pending with
  | some (left, op) => op.apply flags left l.operand
  | none => l.operand

/-- The sign of negation, hyphens and a closing bracket that stand at the beginning of a set. -/
def bracketFront (flags : Flags) (cs : List Char) : Bool × Listed × List Char :=
  let cs := flags.skip cs
  let (negated, cs) := match cs with
    | '^' :: rest => (true, flags.skip rest)
    | cs => (false, cs)
  let (dashes, cs) := spanSkipping flags (· != '-') cs.length cs
  let front : Listed := dashes.foldl (fun l c => l.add ⟨.one c, 0⟩) {}
  match dashes, cs with
  | [], ']' :: rest => (negated, front.add ⟨.one ']', 0⟩, flags.skip rest)
  | _, cs => (negated, front, cs)

mutual

/-- Reads a set after its opening bracket. The numbers bound the length of what is read and the
nesting. -/
def bracket? (flags : Flags) : Nat → Nat → List Char → Option (Nested CharSet × List Char)
  | 0, _, _ => none
  | _, 0, _ => none
  | fuel + 1, depth + 1, cs =>
    let (negated, front, cs) := bracketFront flags cs
    match bracketBody? flags fuel depth none front cs with
    | some (s, rest) => (flags.close? negated s.value).map fun set => (⟨set, s.height + 1⟩, rest)
    | none => none

/-- Reads the items of a set up to its closing bracket. -/
def bracketBody? (flags : Flags) : Nat → Nat → Option (Nested CharSet × SetOperator) → Listed →
    List Char → Option (Nested CharSet × List Char)
  | 0, _, _, _, _ => none
  | fuel + 1, depth, pending, listed, cs =>
    match flags.skip cs with
    | [] => none
    | ']' :: rest => some (settle flags pending listed, rest)
    | '[' :: rest =>
      match namedClass? rest with
      | some (s, negated, rest) =>
        match flags.close? negated s with
        | some s => bracketBody? flags fuel depth pending (listed.add ⟨s, 0⟩) rest
        | none => none
      | none =>
        match bracket? flags fuel depth rest with
        | some (s, rest) => bracketBody? flags fuel depth pending (listed.add s) rest
        | none => none
    | cs =>
      match setOperator? cs with
      | some (op, rest) =>
        bracketBody? flags fuel depth (some (settle flags pending listed, op)) {} rest
      | none =>
        match bracketRange? flags cs with
        | some (s, rest) => bracketBody? flags fuel depth pending (listed.add ⟨s, 0⟩) rest
        | none => none

end

end PingPost.Pattern
