import PingPost.Pattern.Basic

/-!
The size of the programs that a pattern is run by, and the limit on it.

A pattern is run by two programs over UTF-8 bytes, one forwards and one backwards. A program is a
list of states of equal size, some of which hold a list of edges besides. Repetitions are written
out, so a short pattern may make a large program; a pattern is accepted if neither program is
larger than `Program.limit` bytes.

Forwards, a set of characters is the smallest automaton of its byte sequences. Backwards, the
sequences share their tails through a table of fixed size, in which a later tail takes the place of
an earlier one; its places depend on the numbers of the states, so the backward program is laid out
state by state.
-/

namespace PingPost

/-- Size of a program or a piece of one: its states, and the bytes of edges they hold. -/
structure Program where
  states : Nat := 0
  edgeBytes : Nat := 0
  deriving DecidableEq, Repr

namespace Program

instance : Add Program := ⟨fun a b => ⟨a.states + b.states, a.edgeBytes + b.edgeBytes⟩⟩

/-- Several copies of a piece. -/
def copies (n : Nat) (a : Program) : Program := ⟨n * a.states, n * a.edgeBytes⟩

/-- States that hold some branches and some byte edges. -/
def piece (states branches byteEdges : Nat) : Program := ⟨states, 4 * branches + 8 * byteEdges⟩

/-- Size in bytes. -/
def bytes (a : Program) : Nat := 32 * a.states + a.edgeBytes

/-- Greatest size in bytes. -/
def limit : Nat := 10 * Nat.pow 2 20

/-- A program that is not too large. -/
def within? (a : Program) : Option Program := if a.bytes ≤ limit then some a else none

/-! ## Byte sequences -/

/-- UTF-8 bytes of a code point. -/
def utf8Bytes (n : Nat) : List Nat :=
  if n < 0x80 then [n]
  else if n < 0x800 then [0xC0 + n / 64, 0x80 + n % 64]
  else if n < 0x10000 then [0xE0 + n / 4096, 0x80 + n / 64 % 64, 0x80 + n % 64]
  else [0xF0 + n / 262144, 0x80 + n / 4096 % 64, 0x80 + n / 64 % 64, 0x80 + n % 64]

/-- Where a range has to be split so that each byte of its characters runs through a range of its
own: the last code point of the first part. -/
def splitPoint? (a b : Nat) : Option Nat :=
  match [0x7F, 0x7FF, 0xFFFF].find? fun m => a ≤ m && m < b with
  | some m => some m
  | none =>
    if b ≤ 0x7F then none
    else [64, 64 * 64, 64 * 64 * 64].findSome? fun m =>
      if a / m = b / m then none
      else if a % m ≠ 0 then some (a - a % m + (m - 1))
      else if b % m ≠ m - 1 then some (b - b % m - 1)
      else none

/-- The byte sequences of a range of code points. -/
def sequencesOf : Nat → Nat → Nat → List (List (Nat × Nat))
  | 0, a, b => [(utf8Bytes a).zip (utf8Bytes b)]
  | fuel + 1, a, b =>
    match splitPoint? a b with
    | some m => sequencesOf fuel a m ++ sequencesOf fuel (m + 1) b
    | none => [(utf8Bytes a).zip (utf8Bytes b)]

/-- The byte sequences of a set. -/
def sequences (s : CharSet) : List (List (Nat × Nat)) :=
  (s.ranges.flatMap fun (a, b) =>
    [(a, min b 0xD7FF), (max a 0xE000, b)].filter fun r => r.1 ≤ r.2).flatMap
    fun (a, b) => sequencesOf 16 a b

/-! ## Sets forwards -/

/-- Sequences with the same first range together. -/
def byFirst : List (List (Nat × Nat)) → List ((Nat × Nat) × List (List (Nat × Nat)))
  | [] => []
  | [] :: rest => byFirst rest
  | (r :: q) :: rest =>
    match byFirst rest with
    | (r', qs) :: groups =>
      if r = r' then (r, q :: qs) :: groups else (r, [q]) :: (r', qs) :: groups
    | [] => [(r, [q])]

/-- The states of an automaton: the edges of each, with the number of the state behind. -/
abbrev Automaton := List (List ((Nat × Nat) × Nat))

mutual

/-- Number of the state that reads some sequences, which is added if there is none yet. The first
argument bounds the length of the sequences. -/
def stateOf : Nat → List (List (Nat × Nat)) → Automaton → Nat × Automaton
  | 0, _, known => (0, known)
  | fuel + 1, qs, known =>
    if qs.all (·.isEmpty) then (0, known)
    else
      let (edges, known) := edgesOf fuel (byFirst qs) known
      match known.findIdx? (· == edges) with
      | some i => (known.length - i, known)
      | none => (known.length + 1, edges :: known)

/-- The edges of a state, one for each first range. -/
def edgesOf : Nat → List ((Nat × Nat) × List (List (Nat × Nat))) → Automaton →
    List ((Nat × Nat) × Nat) × Automaton
  | _, [], known => ([], known)
  | fuel, (r, qs) :: groups, known =>
    let (n, known) := stateOf fuel qs known
    let (edges, known) := edgesOf fuel groups known
    ((r, n) :: edges, known)

end

/-- A set whose program is the same in both directions: a single character, or ASCII only. -/
def simpleSet? (s : CharSet) : Option Program :=
  match s.single? with
  | some c => some (piece (Pattern.byteLength c.toNat) 0 0)
  | none => if s.isAscii then some (piece 2 0 s.ranges.length) else none

/-- The forward program of a set. -/
def forwardSet (s : CharSet) : Program :=
  match simpleSet? s with
  | some a => a
  | none =>
    let automaton := (stateOf 5 (sequences s) []).2
    piece (automaton.length + 1) 0 automaton.flatten.length

/-! ## Alternatives of words -/

/-- The bytes of a sequence of single characters. -/
def wordBytes? (p : Pattern) : Option (List Nat) := do
  let sets ← (Pattern.parts p).mapM Pattern.set?
  let cs ← sets.mapM CharSet.single?
  if cs.isEmpty then none else some (cs.flatMap fun c => utf8Bytes c.toNat)

/-- Adds the rest of a word to the rests with its first byte. -/
def addRest (b : Nat) (w : List Nat) : List (Nat × List (List Nat)) → List (Nat × List (List Nat))
  | [] => [(b, [w])]
  | (b', ws) :: rest => if b = b' then (b', ws ++ [w]) :: rest else (b', ws) :: addRest b w rest

/-- Words by their first bytes in chunks, the last chunk first: an empty word ends a chunk. -/
def wordChunks : List (List Nat) → List (List (Nat × List (List Nat))) →
    List (List (Nat × List (List Nat)))
  | [], chunks => chunks
  | [] :: ws, chunks => wordChunks ws (if chunks = [[], []] then chunks else [] :: chunks)
  | (b :: w) :: ws, chunks =>
    wordChunks ws ((addRest b w (chunks.headD [])) :: chunks.tail)

/-- The states behind a common beginning of some words; none if all end there. -/
def trie : Nat → List (List Nat) → Program
  | 0, _ => {}
  | fuel + 1, ws =>
    if ws.all (·.isEmpty) then {}
    else
      let chunks := wordChunks ws [[]]
      let filled := chunks.filter (!·.isEmpty)
      let here := piece (1 + filled.length) (filled.length + chunks.length - 1)
        (filled.map fun c => if c.length = 1 then 0 else c.length).sum
      (filled.flatten.map fun e => trie fuel e.2).foldl (· + ·) here

/-- The program of alternatives that are all words. -/
def words? (reversed : Bool) (p : Pattern) : Option Program := do
  let ws ← (Pattern.branches p).mapM wordBytes?
  let ws := if reversed then ws.map List.reverse else ws
  return piece 1 0 0 + trie ((ws.map List.length).foldl max 0 + 1) ws

/-! ## Whole patterns -/

/-- States of a repetition besides those of its body. -/
def repetition (p : Pattern) (low : Nat) (high : Option Nat) : Program :=
  match high with
  | some h =>
    if low = 0 ∧ h = 1 then piece 2 2 0
    else if low = h then (if h = 0 then piece 1 0 0 else {})
    else piece (h - low + if low = 0 then 2 else 1) (2 * (h - low)) 0
  | none =>
    if low = 0 ∧ (Pattern.shortest p).all (· == 0) then piece 3 4 0 else piece 1 2 0

/-- How often a repetition contains its body. -/
def bodies (low : Nat) (high : Option Nat) : Nat :=
  match high with
  | some h => h
  | none => max low 1

/-- The forward program of a pattern. The flag tells that the pattern is the rest of some
alternatives. -/
def forward : Bool → Pattern → Program
  | _, .empty => piece 1 0 0
  | _, .set s => forwardSet s
  | _, .anchor _ => piece 1 0 0
  | _, .seq p q => forward false p + forward false q
  | inner, .alt p q =>
    match (if inner then none else words? false (.alt p q)) with
    | some a => a
    | none => forward true p + forward true q + (if inner then piece 0 1 0 else piece 2 2 0)
  | _, .times p low high _ => copies (bodies low high) (forward false p) + repetition p low high
  | _, .group p => forward false p + piece 2 0 0

/-- A pattern for which sets and words have been worked out. -/
inductive Outline where
  | fixed (a : Program)
  | sequences (qs : List (List (Nat × Nat)))
  | seq (o o' : Outline)
  | copies (n : Nat) (o : Outline)
  deriving Repr

/-- The outline of a pattern read backwards. -/
def outline : Bool → Pattern → Outline
  | _, .empty => .fixed (piece 1 0 0)
  | _, .set s =>
    match simpleSet? s with
    | some a => .fixed a
    | none => .sequences (sequences s)
  | _, .anchor _ => .fixed (piece 1 0 0)
  | _, .seq p q => .seq (outline false q) (outline false p)
  | inner, .alt p q =>
    match (if inner then none else words? true (.alt p q)) with
    | some a => .fixed a
    | none =>
      .seq (.seq (outline true p) (outline true q))
        (.fixed (if inner then piece 0 1 0 else piece 2 2 0))
  | _, .times p low high _ =>
    .seq (.copies (bodies low high) (outline false p)) (.fixed (repetition p low high))
  | _, .group p => outline false p

/-- Number of places for shared tails. -/
def tailPlaces : Nat := 1000

/-- Place of a tail: the FNV-1a hash of the state behind it and its range of bytes. -/
def tailPlace (behind first last : Nat) : Nat :=
  let mix (h : UInt64) (n : Nat) : UInt64 := (h ^^^ UInt64.ofNat n) * 1099511628211
  (mix (mix (mix 14695981039346656037 behind) first) last).toNat % tailPlaces

/-- Tails by their places: the state behind, the range of bytes, and the state itself. -/
abbrev Tails := Array (Option ((Nat × Nat × Nat) × Nat))

/-- Lays out one sequence in front of a state. The first number is that of the next new state. -/
def laySequence : List (Nat × Nat) → Nat → Nat → Tails → Nat × Tails
  | [], _, next, tails => (next, tails)
  | (a, b) :: rest, behind, next, tails =>
    let place := tailPlace behind a b
    match (tails[place]?).join with
    | some (key, state) =>
      if key = (behind, a, b) then laySequence rest state next tails
      else
        laySequence rest next (next + 1)
          (tails.setIfInBounds place (some ((behind, a, b), next)))
    | none =>
      laySequence rest next (next + 1) (tails.setIfInBounds place (some ((behind, a, b), next)))

/-- Lays out the sequences of a set. -/
def laySequences (qs : List (List (Nat × Nat))) (a : Program) : Program :=
  let behind := a.states + 1
  let (next, _) := qs.foldl
    (fun (next, tails) q => laySequence q behind next tails)
    (a.states + 2, (Array.replicate tailPlaces none : Tails))
  ⟨next, a.edgeBytes + 4 * qs.length⟩

/-- Repeats a step that may fail. -/
def iterate? (step : Program → Option Program) : Nat → Program → Option Program
  | 0, a => some a
  | n + 1, a =>
    match step a with
    | some a => iterate? step n a
    | none => none

/-- Lays out an outline behind what is there. -/
def lay? : Outline → Program → Option Program
  | .fixed b, a => (a + b).within?
  | .sequences qs, a => (laySequences qs a).within?
  | .seq o o', a => (lay? o a).bind (lay? o')
  | .copies n o, a => iterate? (lay? o) n a

/-- Whether every match of a pattern begins where an anchor holds. -/
def beginsAt (anchor : Anchor) : Pattern → Bool
  | .anchor b => anchor == b
  | .seq p q => beginsAt anchor p || (Pattern.isEmptyOnly p && beginsAt anchor q)
  | .alt p q => beginsAt anchor p && beginsAt anchor q
  | .times p low _ _ => 0 < low && beginsAt anchor p
  | .group p => beginsAt anchor p
  | _ => false

/-- Whether every match of a pattern ends where an anchor holds. -/
def endsAt (anchor : Anchor) : Pattern → Bool
  | .anchor b => anchor == b
  | .seq p q => endsAt anchor q || (Pattern.isEmptyOnly q && endsAt anchor p)
  | .alt p q => endsAt anchor p && endsAt anchor q
  | .times p low _ _ => 0 < low && endsAt anchor p
  | .group p => endsAt anchor p
  | _ => false

/-- The states that skip what stands before a match. -/
def lead (anchored : Bool) : Program := if anchored then piece 1 0 0 else piece 3 2 1

end Program

/-- Whether both programs of a pattern are within the limit. -/
def Pattern.fits (p : Pattern) : Bool :=
  let forward :=
    Program.lead (Program.beginsAt .textStart p) + Program.forward false p + Program.piece 3 0 0
  let backward := (Program.lay? (Program.outline false p)
    (Program.lead (Program.endsAt .textEnd p))).bind fun a => (a + Program.piece 1 0 0).within?
  forward.within?.isSome && backward.isSome

end PingPost
