import PingPost.Text.CaseTable
import PingPost.Text.CharSet

/-!
Sets of characters up to case.

Two characters are the same letter up to case if simple case folding gives them one image.
`CharSet.anyCase` closes a set under that relation.
-/

namespace PingPost

namespace Text

/-- The characters of a run with their images. -/
def runPairs : Nat × Nat × Nat × Int → List (Nat × Nat)
  | (first, last, step, shift) =>
    (List.range ((last - first) / step + 1)).map fun k =>
      (first + step * k, ((first + step * k : Nat) + shift : Int).toNat)

/-- The characters that simple case folding changes, with their images. -/
def foldPairs : List (Nat × Nat) := foldRuns.flatMap runPairs

end Text

namespace CharSet

/-- The characters that are the same letter as one of the set up to case. -/
def anyCase (s : CharSet) : CharSet :=
  let met := Text.foldPairs.filter fun (c, image) => s.has c || s.has image
  let images := ofRanges (met.map fun (_, image) => (image, image))
  let others := Text.foldPairs.filter fun (_, image) => images.has image
  unions [s, images, ofRanges (others.map fun (c, _) => (c, c))]

/-- The set closed under changes of case between ASCII letters. -/
def asciiAnyCase (s : CharSet) : CharSet :=
  let met := (List.range 26).filter fun k => s.has (65 + k) || s.has (97 + k)
  s.union (ofRanges (met.flatMap fun k => [(65 + k, 65 + k), (97 + k, 97 + k)]))

end CharSet

end PingPost
