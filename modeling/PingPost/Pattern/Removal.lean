import PingPost.Pattern.Match

/-!
Removing the parts of a text that match a pattern.

A match begins as early as it can. Of the matches that begin there, alternatives prefer their left
branch, greedy repetitions prefer to go on, lazy ones to stop. `Route.guide` works out, from the
end of a route to its beginning, where each choice can still lead to a match; `Guide.finish` then
makes every choice once.
-/

namespace PingPost

/-- A route with its choices: where a branch or a further step can still lead to a match. -/
inductive Guide where
  | stay
  | pass
  | seq (g h : Guide)
  /-- The first branch at the given positions, the second one elsewhere. -/
  | choose (first : Nat) (g h : Guide)
  /-- Steps as long as the position is one to go on from. -/
  | whileAt (go : Nat) (g : Guide)
  deriving Repr

namespace Route

/-- The positions from which a route leads to one of some positions. The first argument is the
number of positions. -/
def origins (size : Nat) : Route → Nat → Nat
  | .stay, goals => goals
  | .pass positions, goals => (goals >>> 1) &&& positions
  | .check positions, goals => goals &&& positions
  | .seq r s, goals => origins size r (origins size s goals)
  | .alt r s, goals => origins size r goals ||| origins size s goals
  | .times r low high _, goals =>
    let goals := match high with
      | some h => stepUpTo (origins size r) (h - low) goals goals
      | none => stepUpTo (origins size r) size goals goals
    stepTimes (origins size r) low goals

/-- A step that may be repeated `n` times, with what follows each time. -/
def upTo (step : Nat → Nat × Guide) (greedy : Bool) (goals : Nat) : Nat → Nat × Guide
  | 0 => (goals, .stay)
  | n + 1 =>
    let (next, rest) := upTo step greedy goals n
    let (go, g) := step next
    (goals ||| go,
      if greedy then .choose go (.seq g rest) .stay else .choose goals .stay (.seq g rest))

/-- A step that is made `n` times, in front of what follows. -/
def exactly (step : Nat → Nat × Guide) : Nat → Nat × Guide → Nat × Guide
  | 0, rest => rest
  | n + 1, (goals, rest) =>
    let (from_, g) := step goals
    exactly step n (from_, .seq g rest)

/-- The positions from which a route leads to one of some positions, with its choices. -/
def guide (size : Nat) : Route → Nat → Nat × Guide
  | .stay, goals => (goals, .stay)
  | .pass positions, goals => ((goals >>> 1) &&& positions, .pass)
  | .check positions, goals => (goals &&& positions, .stay)
  | .seq r s, goals =>
    let (middle, h) := guide size s goals
    let (from_, g) := guide size r middle
    (from_, .seq g h)
  | .alt r s, goals =>
    let (first, g) := guide size r goals
    let (second, h) := guide size s goals
    (first ||| second, .choose first g h)
  | .times r low high greedy, goals =>
    exactly (guide size r) low <|
      match high with
      | some h => upTo (guide size r) greedy goals (h - low)
      | none =>
        let all := stepUpTo (origins size r) size goals goals
        let (go, g) := guide size r all
        (all, .whileAt (if greedy then go else go ^^^ (go &&& goals)) g)

end Route

namespace Guide

/-- Steps as long as `go` holds and the position moves. -/
def walk (step : Nat → Nat) (go : Nat) : Nat → Nat → Nat
  | 0, i => i
  | fuel + 1, i =>
    if go.testBit i then
      let j := step i
      if i < j then walk step go fuel j else i
    else i

/-- Where the preferred match from a position ends. The first argument is the number of
positions. -/
def finish (size : Nat) : Guide → Nat → Nat
  | .stay, i => i
  | .pass, i => i + 1
  | .seq g h, i => finish size h (finish size g i)
  | .choose first g h, i => if first.testBit i then finish size g i else finish size h i
  | .whileAt go g, i => walk (finish size g) go size i

end Guide

namespace Pattern

/-- The text without the parts between the positions where `begins` holds and their ends. The
first number counts the characters still to be dropped, the second is the position. -/
def removeFrom {α : Type} (begins : Nat) (finish : Nat → Nat) : Nat → Nat → List α → List α
  | _, _, [] => []
  | drop + 1, i, _ :: cs => removeFrom begins finish drop (i + 1) cs
  | 0, i, c :: cs =>
    let j := if begins.testBit i then finish i else i
    if i < j then removeFrom begins finish (j - i - 1) (i + 1) cs
    else c :: removeFrom begins finish 0 (i + 1) cs

/-- The text without the parts that match, left to right. -/
def removeAll (p : Pattern) (s : String) : String :=
  let text := s.toList
  let size := text.length + 1
  let (begins, guide) := (p.onText text).guide size (1 <<< size - 1)
  String.ofList (removeFrom begins (guide.finish size) 0 0 text)

end Pattern

end PingPost
