import PingPost.Text.Digits

/-!
Sets of characters as increasing lists of disjoint ranges of code points, and the notation in
which the tables of this library write them.

`CharSet.compl` turns the gaps of a list into ranges, `CharSet.union` merges two lists and joins
what touches; the other operations are made of these two.
-/

namespace PingPost

/-- A set of characters: ranges of code points, first and last included, in increasing order. -/
structure CharSet where
  ranges : List (Nat × Nat)
  deriving DecidableEq, Repr

namespace CharSet

/-- Greatest code point. -/
def greatest : Nat := 0x10FFFF

/-- No character. -/
def none : CharSet := ⟨[]⟩

/-- Every character. -/
def all : CharSet := ⟨[(0, greatest)]⟩

/-- The characters from one code point to another. -/
def range (first last : Nat) : CharSet := ⟨[(first, last)]⟩

/-- One character. -/
def one (c : Char) : CharSet := range c.toNat c.toNat

/-- Whether a code point lies in one of some increasing ranges. -/
def covers : List (Nat × Nat) → Nat → Bool
  | [], _ => false
  | (a, b) :: rest, n => a ≤ n && (n ≤ b || covers rest n)

/-- Membership of a code point. -/
def has (s : CharSet) (n : Nat) : Bool := covers s.ranges n

/-- Membership of a character. -/
def holds (s : CharSet) (c : Char) : Bool := s.has c.toNat

@[simp] theorem holds_none (c : Char) : none.holds c = false := rfl

@[simp] theorem holds_one (c d : Char) : (one c).holds d = (c == d) := by
  have toNat_eq : c.toNat = d.toNat ↔ c = d := by
    rw [← Char.val_inj, ← UInt32.toNat_inj]; rfl
  rw [Bool.eq_iff_iff, beq_iff_eq, ← toNat_eq]
  simp [holds, has, covers, one, range]
  omega

/-- Puts a range in front of what a merge goes on with. -/
def mergeFront (r : Nat × Nat) (rest : List (Nat × Nat) → List (Nat × Nat)) :
    List (Nat × Nat) → List (Nat × Nat)
  | [] => r :: rest []
  | s :: ss => if r.1 ≤ s.1 then r :: rest (s :: ss) else s :: mergeFront r rest ss

/-- Merges two lists of ranges by their first code points. -/
def merge : List (Nat × Nat) → List (Nat × Nat) → List (Nat × Nat)
  | [], ss => ss
  | r :: rs, ss => mergeFront r (merge rs) ss

/-- Joins ranges that touch or overlap, where `a` to `b` is the one in front. -/
def joinFrom (a b : Nat) : List (Nat × Nat) → List (Nat × Nat)
  | [] => [(a, b)]
  | (c, d) :: rest => if c ≤ b + 1 then joinFrom a (max b d) rest else (a, b) :: joinFrom c d rest

/-- Joins ranges that touch or overlap. -/
def join : List (Nat × Nat) → List (Nat × Nat)
  | [] => []
  | (a, b) :: rest => joinFrom a b rest

/-- The characters of either set. -/
def union (s t : CharSet) : CharSet := ⟨join (merge s.ranges t.ranges)⟩

/-- The gaps between ranges from a code point on. -/
def gaps (a : Nat) : List (Nat × Nat) → List (Nat × Nat)
  | [] => if a ≤ greatest then [(a, greatest)] else []
  | (c, d) :: rest => if a < c then (a, c - 1) :: gaps (d + 1) rest else gaps (d + 1) rest

/-- The characters outside a set. -/
def compl (s : CharSet) : CharSet := ⟨gaps 0 s.ranges⟩

/-- The characters of both sets. -/
def inter (s t : CharSet) : CharSet := (s.compl.union t.compl).compl

/-- The characters of the first set that are not in the second. -/
def diff (s t : CharSet) : CharSet := s.inter t.compl

/-- The characters of exactly one of two sets. -/
def symmDiff (s t : CharSet) : CharSet := (s.diff t).union (t.diff s)

/-- Pairs of neighbouring sets united. -/
def unionPairs : List CharSet → List CharSet
  | s :: t :: rest => s.union t :: unionPairs rest
  | sets => sets

/-- Union of a list of sets, in rounds over neighbours. -/
def unionRounds : Nat → List CharSet → CharSet
  | _, [] => none
  | _, [s] => s
  | 0, s :: _ => s
  | fuel + 1, sets => unionRounds fuel (unionPairs sets)

/-- The characters of any of some sets. -/
def unions (sets : List CharSet) : CharSet := unionRounds sets.length sets

/-- The set of some ranges in any order. -/
def ofRanges (rs : List (Nat × Nat)) : CharSet := unions (rs.map fun r => ⟨[r]⟩)

/-- The characters of a list. -/
def ofList (cs : List Char) : CharSet := unions (cs.map one)

/-- Whether a set holds ASCII characters only. -/
def isAscii (s : CharSet) : Bool := s.ranges.all fun r => r.2 < 128

/-- The only character of a set. -/
def single? (s : CharSet) : Option Char :=
  match s.ranges with
  | [(a, b)] => if a = b then some (Char.ofNat a) else Option.none
  | _ => Option.none

/-! ## Written sets -/

/-- One written range: a code point, two with a hyphen between, or two and, after a stroke, the
step from one character to the next. -/
structure WrittenRange where
  first : Nat := 0
  last : Nat := 0
  step : Nat := 0
  deriving Repr

/-- Which number of a written range is being read. -/
inductive WrittenPart where
  | first
  | last
  | step
  deriving DecidableEq, Repr

/-- The characters of a written range. -/
def WrittenRange.ranges (r : WrittenRange) : List (Nat × Nat) :=
  if r.step ≤ 1 then [(r.first, r.last)]
  else (List.range ((r.last - r.first) / r.step + 1)).map fun k =>
    (r.first + r.step * k, r.first + r.step * k)

/-- State of the reader of written sets: the ranges so far, last one first, and the range in
hand. -/
structure WrittenState where
  done : List (Nat × Nat) := []
  hand : WrittenRange := {}
  part : WrittenPart := .first
  begun : Bool := false

/-- Sets the range in hand aside. -/
def WrittenState.close (st : WrittenState) : WrittenState :=
  if st.begun then { done := st.hand.ranges.reverse ++ st.done } else { done := st.done }

/-- Reads one character of a written set. -/
def WrittenState.next (st : WrittenState) (c : Char) : WrittenState :=
  match Text.hexValue? c with
  | some d =>
    let hand := match st.part with
      | .first =>
        let n := 16 * st.hand.first + d
        { st.hand with first := n, last := n }
      | .last => { st.hand with last := 16 * st.hand.last + d }
      | .step => { st.hand with step := 16 * st.hand.step + d }
    { st with hand, begun := true }
  | Option.none =>
    if c = '-' then { st with hand := { st.hand with last := 0 }, part := .last }
    else if c = '/' then { st with part := .step }
    else st.close

/-- The set of an increasing list of written ranges with blanks between, in hexadecimal. -/
def ofWritten (s : String) : CharSet := ⟨(s.foldl WrittenState.next {}).close.done.reverse⟩

end CharSet

end PingPost
