import PingPost.Text.Class
import PingPost.Text.Fold

/-!
Text patterns: trees of character sets and anchors.

The constructors of the tree say what a pattern is made of; `Pattern.sequence`, `Pattern.oneOf`
and `Pattern.repeated` build trees in the simplest form that means the same: nothing is left out of
a sequence, alternatives of alternatives are alternatives, and single characters that are
alternatives become one set.
-/

namespace PingPost

/-- A condition on a position of the text. Positions at words know either the words of all scripts
or those of ASCII. -/
inductive Anchor where
  | textStart
  | textEnd
  | lineStart
  | lineEnd
  /-- As `lineStart`, where carriage returns and their pairs with line feeds end lines too. -/
  | anyLineStart
  | anyLineEnd
  | boundary (ascii : Bool)
  | noBoundary (ascii : Bool)
  | wordStart (ascii : Bool)
  | wordEnd (ascii : Bool)
  /-- No word character in front. -/
  | wordStartHalf (ascii : Bool)
  /-- No word character behind. -/
  | wordEndHalf (ascii : Bool)
  deriving DecidableEq, Repr

/-- A text pattern. -/
inductive Pattern where
  | empty
  | set (s : CharSet)
  | anchor (a : Anchor)
  | seq (p q : Pattern)
  | alt (p q : Pattern)
  /-- From `low` to `high` times, without an upper bound when `high` is missing. -/
  | times (p : Pattern) (low : Nat) (high : Option Nat) (greedy : Bool)
  /-- A group whose match is remembered; it matches what its body matches. -/
  | group (p : Pattern)
  deriving DecidableEq, Repr

namespace Anchor

/-- Whether there is a word character. -/
def isWord (ascii : Bool) (c? : Option Char) : Bool :=
  c?.any fun c => if ascii then c.isAlphanum || c == '_' else Text.isWord c

/-- Whether the condition holds between two characters, either of which may be missing. -/
def holds (a : Anchor) (before after : Option Char) : Bool :=
  match a with
  | .textStart => before.isNone
  | .textEnd => after.isNone
  | .lineStart => before.isNone || before == some '\n'
  | .lineEnd => after.isNone || after == some '\n'
  | .anyLineStart =>
    before.isNone || before == some '\n' || (before == some '\r' && after != some '\n')
  | .anyLineEnd => after.isNone || after == some '\r' || (after == some '\n' && before != some '\r')
  | .boundary ascii => isWord ascii before != isWord ascii after
  | .noBoundary ascii => isWord ascii before == isWord ascii after
  | .wordStart ascii => !isWord ascii before && isWord ascii after
  | .wordEnd ascii => isWord ascii before && !isWord ascii after
  | .wordStartHalf ascii => !isWord ascii before
  | .wordEndHalf ascii => !isWord ascii after

end Anchor

namespace Pattern

/-- The parts of a sequence. -/
def parts : Pattern → List Pattern
  | .empty => []
  | .seq p q => parts p ++ parts q
  | p => [p]

/-- The branches of alternatives. -/
def branches : Pattern → List Pattern
  | .alt p q => branches p ++ branches q
  | p => [p]

/-- Joins parts to a sequence. -/
def joinParts : List Pattern → Pattern
  | [] => .empty
  | [p] => p
  | p :: ps => .seq p (joinParts ps)

/-- Joins branches to alternatives. -/
def joinBranches : List Pattern → Pattern
  | [] => .set .none
  | [p] => p
  | p :: ps => .alt p (joinBranches ps)

/-- Patterns one after the other. -/
def sequence (ps : List Pattern) : Pattern := joinParts (ps.flatMap parts)

/-- The set of a pattern that is one. -/
def set? : Pattern → Option CharSet
  | .set s => some s
  | _ => none

/-- The set of branches that are either all single characters or all larger sets. -/
def setOfBranches? (ps : List Pattern) : Option CharSet := do
  let sets ← ps.mapM set?
  if sets.all (·.single?.isSome) || sets.all (·.single?.isNone) then some (.unions sets) else none

/-- Whether a pattern is a single character. -/
def isLiteral (p : Pattern) : Bool := (set? p).any (·.single?.isSome)

/-- The units of a sequence: its parts, where single characters side by side are one unit. -/
def units (ps : List Pattern) : List (List Pattern) :=
  ps.foldr
    (fun p us =>
      match us with
      | (q :: qs) :: rest =>
        if isLiteral p && isLiteral q then (p :: q :: qs) :: rest else [p] :: us
      | _ => [p] :: us)
    []

/-- The units with which both of two sequences begin. -/
def commonFront : List (List Pattern) → List (List Pattern) → List (List Pattern)
  | u :: us, v :: vs => if u = v then u :: commonFront us vs else []
  | _, _ => []

/-- Branches of several units with one beginning: that beginning, and what follows it. -/
def factored? (ps : List Pattern) : Option (List Pattern × List Pattern) :=
  match ps.map fun p => units (parts p) with
  | first :: rest =>
    let front := rest.foldl commonFront first
    if (first :: rest).all (1 < ·.length) && !front.isEmpty then
      some (front.flatten, (first :: rest).map fun us => joinParts (us.drop front.length).flatten)
    else none
  | [] => none

/-- Alternatives in simplest form; the first argument bounds how often a common beginning is taken
out. -/
def oneOfWithin : Nat → List Pattern → Pattern
  | fuel, ps =>
    match ps.flatMap branches with
    | [] => .set .none
    | [p] => p
    | flat =>
      match setOfBranches? flat with
      | some s => .set s
      | none =>
        match fuel, factored? flat with
        | fuel + 1, some (front, rest) => sequence (front ++ [oneOfWithin fuel rest])
        | _, _ => joinBranches flat

/-- One of some patterns, the first preferred. -/
def oneOf (ps : List Pattern) : Pattern := oneOfWithin ps.length ps

/-- Number of UTF-8 bytes of a code point. -/
def byteLength (n : Nat) : Nat :=
  if n < 0x80 then 1 else if n < 0x800 then 2 else if n < 0x10000 then 3 else 4

/-- Bytes in the shortest match; none if a part never matches. -/
def shortest : Pattern → Option Nat
  | .empty => some 0
  | .set s => s.ranges.head?.map fun r => byteLength r.1
  | .anchor _ => some 0
  | .seq p q => do return (← shortest p) + (← shortest q)
  | .alt p q => do return min (← shortest p) (← shortest q)
  | .times p low _ _ => (shortest p).map (· * low)
  | .group p => shortest p

/-- Whether every match is empty. -/
def isEmptyOnly : Pattern → Bool
  | .empty => true
  | .set _ => false
  | .anchor _ => true
  | .seq p q => isEmptyOnly p && isEmptyOnly q
  | .alt p q => isEmptyOnly p && isEmptyOnly q
  | .times p _ high _ => isEmptyOnly p || high == some 0
  | .group p => isEmptyOnly p

/-- A repetition in simplest form: what is empty need not be repeated. -/
def repeated (p : Pattern) (low : Nat) (high : Option Nat) (greedy : Bool) : Pattern :=
  let (low, high) :=
    if isEmptyOnly p then (min low 1, some (min (high.getD 1) 1)) else (low, high)
  if low = 0 ∧ high = some 0 then .empty
  else if low = 1 ∧ high = some 1 then p
  else .times p low high greedy

/-- The characters of a word, up to case when asked. -/
def word (anyCase : Bool) (s : String) : Pattern :=
  sequence (s.toList.map fun c => .set (if anyCase then (CharSet.one c).anyCase else .one c))

/-- Any number of times. -/
def zeroOrMore (p : Pattern) : Pattern := .times p 0 none true

/-- At least once. -/
def oneOrMore (p : Pattern) : Pattern := .times p 1 none true

/-- Once or not at all. -/
def optional (p : Pattern) : Pattern := .times p 0 (some 1) true

end Pattern

end PingPost
