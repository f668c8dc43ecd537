/-!
# Sorted tables of code points

Character properties are kept as arrays sorted by code point and searched by halving:

* a property as disjoint inclusive ranges `(first, last)`;
* a case mapping as disjoint runs `(first, last, stride, delta)`: every `stride`-th code
  point from `first` to `last` maps to itself plus `delta`;
* exceptions as pairs of a code point and what it maps to.

`lastAtMost` finds the entry with the greatest key not above a code point; every lookup
checks that entry and no other, which is right because the entries are disjoint and sorted.
-/

namespace CatalogSync.Text

/-- The number of entries of `xs`, sorted by `key`, from position `lo` on and before `hi`,
whose key is at most `n`, added to `lo`: the first position from which keys exceed `n`.
`fuel` bounds the halvings. -/
def boundAbove {α : Type} (xs : Array α) (key : α → Nat) (n : Nat) :
    Nat → Nat → Nat → Nat
  | 0, lo, _ => lo
  | fuel + 1, lo, hi =>
    if lo < hi then
      let mid := lo + (hi - lo) / 2
      match xs[mid]? with
      | some x => if key x ≤ n then boundAbove xs key n fuel (mid + 1) hi
        else boundAbove xs key n fuel lo mid
      | none => lo
    else lo

/-- The entry of `xs`, sorted by `key`, with the greatest key not above `n`. -/
def lastAtMost {α : Type} (xs : Array α) (key : α → Nat) (n : Nat) : Option α :=
  match boundAbove xs key n (Nat.log2 xs.size + 2) 0 xs.size with
  | 0 => none
  | i + 1 => xs[i]?

def inRanges (rs : Array (Nat × Nat)) (n : Nat) : Bool :=
  match lastAtMost rs (·.1) n with
  | some (_, last) => n ≤ last
  | none => false

abbrev Run := Nat × Nat × Nat × Int

def runImage (rs : Array Run) (n : Nat) : Option Nat :=
  match lastAtMost rs (·.1) n with
  | some (first, last, stride, delta) =>
    if n ≤ last && (n - first) % stride == 0 then some (Int.toNat (Int.ofNat n + delta))
    else none
  | none => none

def exceptionImage (xs : Array (Nat × List Nat)) (n : Nat) : Option (List Nat) :=
  match lastAtMost xs (·.1) n with
  | some (m, image) => if m == n then some image else none
  | none => none

example : inRanges #[(1, 3), (7, 9)] 8 = true ∧ inRanges #[(1, 3), (7, 9)] 5 = false := by
  decide

example : runImage #[(0x61, 0x7A, 1, -32)] 0x62 = some 0x42 := by decide

end CatalogSync.Text
