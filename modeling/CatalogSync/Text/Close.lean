/-!
# Close matches

How alike two texts are, as the share of their characters that a longest-block matching
pairs up: the longest common block is matched first, the earliest one in the first text and
then in the second among equals, and the parts on either side of it are matched the same way.
Twice the matched count over the total length is the texts' likeness.

`closeMatches` keeps the candidates at least 60% alike to a word, at most three of them, the
most alike first and, among equals, the greater text first.
-/

namespace CatalogSync.Text

def runLength (a b : Array Char) (i j ahi bhi : Nat) : Nat :=
  go (min (ahi - i) (bhi - j)) 0
where
  go : Nat → Nat → Nat
    | 0, k => k
    | fuel + 1, k => if a.getD (i + k) ' ' == b.getD (j + k) ' ' then go fuel (k + 1) else k

def longestBlock (a b : Array Char) (alo ahi blo bhi : Nat) : Nat × Nat × Nat :=
  (List.range' alo (ahi - alo)).foldl (fun best i =>
    (List.range' blo (bhi - blo)).foldl (fun best j =>
      if a.getD i ' ' != b.getD j ' ' then best
      else
        let k := runLength a b i j ahi bhi
        if k > best.2.2 then (i, j, k) else best) best) (alo, blo, 0)

def matchedCount (a b : Array Char) : Nat → Nat → Nat → Nat → Nat → Nat
  | 0, _, _, _, _ => 0
  | fuel + 1, alo, ahi, blo, bhi =>
    let (i, j, k) := longestBlock a b alo ahi blo bhi
    if k = 0 then 0
    else k + matchedCount a b fuel alo i blo j + matchedCount a b fuel (i + k) ahi (j + k) bhi

def matched (a b : String) : Nat :=
  let x := a.toList.toArray
  let y := b.toList.toArray
  matchedCount x y (x.size + y.size + 1) 0 x.size 0 y.size

def isClose (word candidate : String) : Bool :=
  10 * matched candidate word ≥ 3 * (candidate.length + word.length)

def ranksBefore (x y : String × Nat × Nat) : Bool :=
  let (sx, mx, tx) := x
  let (sy, my, ty) := y
  mx * ty > my * tx || (mx * ty == my * tx && decide (sy > sx))

/-- The candidates at least 60% alike to a word, at most three, the most alike first. -/
def closeMatches (word : String) (candidates : List String) : List String :=
  let scored := (candidates.filter (isClose word)).map fun c =>
    (c, matched c word, c.length + word.length)
  ((scored.mergeSort fun x y => !ranksBefore y x).take 3).map (·.1)

end CatalogSync.Text
