import PingPost.Pattern.Basic

/-!
Whether a pattern matches somewhere in a text.

A set of positions of the text is a number whose binary digit `i` stands for the position in front
of character `i`. `Pattern.onText` works out once where each set and each anchor of a pattern
holds; `Route.reach` then moves whole sets of positions through the pattern at once, so that no
choice is tried twice.
-/

namespace PingPost

/-- A pattern laid on a text: positions from which a character may be passed, and positions at
which an anchor holds, as binary digits. -/
inductive Route where
  | stay
  | pass (positions : Nat)
  | check (positions : Nat)
  | seq (r s : Route)
  | alt (r s : Route)
  | times (r : Route) (low : Nat) (high : Option Nat) (greedy : Bool)
  deriving Repr

/-- The number whose binary digits are given, the least one first. -/
def bits : List Bool → Nat
  | [] => 0
  | b :: bs => 2 * bits bs + b.toNat

/-- Positions of a text at which a condition on the neighbouring characters holds, from a position
with a given character in front. -/
def positionsWhere (holds : Option Char → Option Char → Bool) : Option Char → List Char → List Bool
  | before, [] => [holds before none]
  | before, c :: cs => holds before (some c) :: positionsWhere holds (some c) cs

/-- Lays a pattern on a text. -/
def Pattern.onText (text : List Char) : Pattern → Route
  | .empty => .stay
  | .set s => .pass (bits (text.map s.holds))
  | .anchor a => .check (bits (positionsWhere a.holds none text))
  | .seq p q => .seq (p.onText text) (q.onText text)
  | .alt p q => .alt (p.onText text) (q.onText text)
  | .times p low high greedy => .times (p.onText text) low high greedy
  | .group p => p.onText text

namespace Route

/-- Positions after exactly `n` steps. -/
def stepTimes (step : Nat → Nat) : Nat → Nat → Nat
  | 0, starts => starts
  | n + 1, starts =>
    let next := step starts
    if next = starts then starts else stepTimes step n next

/-- Positions after at most `n` steps: those reached so far, of which `fresh` came last. -/
def stepUpTo (step : Nat → Nat) : Nat → Nat → Nat → Nat
  | 0, reached, _ => reached
  | n + 1, reached, fresh =>
    if fresh = 0 then reached
    else
      let all := reached ||| step fresh
      stepUpTo step n all (all ^^^ reached)

/-- Positions at the end of a route from any of some positions. The first argument is the number of
positions. -/
def reach (size : Nat) : Route → Nat → Nat
  | .stay, starts => starts
  | .pass positions, starts => (starts &&& positions) <<< 1
  | .check positions, starts => starts &&& positions
  | .seq r s, starts => reach size s (reach size r starts)
  | .alt r s, starts => reach size r starts ||| reach size s starts
  | .times r low high _, starts =>
    let starts := stepTimes (reach size r) low starts
    match high with
    | some h => stepUpTo (reach size r) (h - low) starts starts
    | none => stepUpTo (reach size r) size starts starts

end Route

/-- Whether some part of the text matches. -/
def Pattern.isMatch (p : Pattern) (s : String) : Bool :=
  let text := s.toList
  let size := text.length + 1
  (p.onText text).reach size (1 <<< size - 1) != 0

/-- Whether the whole text matches. -/
def Pattern.isWholeMatch (p : Pattern) (text : List Char) : Bool :=
  ((p.onText text).reach (text.length + 1) 1).testBit text.length

end PingPost
