import HackVm.Text.Ranges

/-!
# Sets of characters

A set of characters is kept as closed ranges of code points, ascending and apart. With
it goes whether it is known to hold letters in both cases: the letters of all scripts
cannot be paired here, so a set of which this is not known stays as it is.
-/

namespace HackVm

/-- A set of characters. -/
structure CharRanges where
  /-- The ranges of code points, ascending and apart. -/
  ranges : List (Nat × Nat)
  /-- Whether the set is known to hold each of its letters in both cases. -/
  folded : Bool
  deriving DecidableEq, Repr

namespace CharRanges

/-- The set without characters. -/
def empty : CharRanges := ⟨[], true⟩

/-- The set of the characters from one code point to another. -/
def range (low high : Nat) : CharRanges := ⟨[(low, high)], false⟩

/-- The set of one character. -/
def single (char : Char) : CharRanges := range char.toNat char.toNat

/-- Join a range with those after it, which start no earlier. -/
def join (current : Nat × Nat) : List (Nat × Nat) → List (Nat × Nat)
  | [] => [current]
  | next :: rest =>
    if next.1 ≤ current.2 + 1 then join (current.1, max current.2 next.2) rest
    else current :: join next rest

/-- Put ranges in order and join those that touch. -/
def tidy (ranges : List (Nat × Nat)) : List (Nat × Nat) :=
  match ranges.mergeSort fun first second =>
      first.1 < second.1 || (first.1 == second.1 && first.2 ≤ second.2) with
  | [] => []
  | first :: rest => join first rest

/-- The set of the characters in some ranges. -/
def ofRanges (ranges : List (Nat × Nat)) : CharRanges := ⟨tidy ranges, ranges.isEmpty⟩

/-- Whether a set has no characters. -/
def isEmpty (set : CharRanges) : Bool := set.ranges.isEmpty

/-- Whether a set has characters of the basic alphabet only. -/
def isBasic (set : CharRanges) : Bool := set.ranges.all (·.2 ≤ 0x7F)

/-- The code point of the next character; surrogates are none. -/
def next (code : Nat) : Nat := if code = 0xD7FF then 0xE000 else code + 1

/-- The code point of the character before. -/
def previous (code : Nat) : Nat := if code = 0xE000 then 0xD7FF else code - 1

/-- The characters of either set. -/
def union (left right : CharRanges) : CharRanges :=
  if right.isEmpty || left.ranges == right.ranges then left
  else ⟨tidy (left.ranges ++ right.ranges), left.folded && right.folded⟩

/-- The characters of a set and of some others. Once letters in both cases are not known
of all sets so far, they are not known of the rest either. -/
def unionAll (set : CharRanges) : List CharRanges → CharRanges
  | [] => set
  | next :: others =>
    if set.folded then (set.union next).unionAll others
    else ⟨tidy (set.ranges ++ (next :: others).flatMap (·.ranges)), false⟩

/-- The characters of both sets. -/
def meet (left right : CharRanges) : CharRanges :=
  if left.isEmpty then left
  else if right.isEmpty then empty
  else
    let common := left.ranges.flatMap fun first => right.ranges.filterMap fun second =>
      let low := max first.1 second.1
      let high := min first.2 second.2
      if low ≤ high then some (low, high) else none
    ⟨common, left.folded && right.folded⟩

/-- A range without the characters of another one. -/
def cut (removed range : Nat × Nat) : List (Nat × Nat) :=
  if range.2 < removed.1 ∨ removed.2 < range.1 then [range]
  else
    (if range.1 < removed.1 then [(range.1, previous removed.1)] else []) ++
      (if removed.2 < range.2 then [(next removed.2, range.2)] else [])

/-- The characters of the first set that are not in the second. -/
def difference (left right : CharRanges) : CharRanges :=
  if left.isEmpty || right.isEmpty then left
  else
    ⟨right.ranges.foldl (fun ranges removed => ranges.flatMap (cut removed)) left.ranges,
      left.folded && right.folded⟩

/-- The characters of exactly one of two sets. -/
def symmetric (left right : CharRanges) : CharRanges :=
  (left.union right).difference (left.meet right)

/-- The ranges between those of a set, and after the last of them. -/
def gaps (last : Nat) : List (Nat × Nat) → List (Nat × Nat)
  | [] => []
  | [range] => if range.2 < last then [(next range.2, last)] else []
  | first :: second :: rest =>
    let low := next first.2
    let high := previous second.1
    (min low high, max low high) :: gaps last (second :: rest)

/-- The characters up to a last one that are not in a set. -/
def complement (last : Nat) (set : CharRanges) : CharRanges :=
  match set.ranges with
  | [] => ⟨[(0, last)], true⟩
  | first :: rest =>
    let before := if 0 < first.1 then [(0, previous first.1)] else []
    ⟨before ++ gaps last (first :: rest), set.folded⟩

/-- The letters of the basic alphabet in a range, in their other case. -/
def otherCase (range : Nat × Nat) : List (Nat × Nat) :=
  let lower := (max range.1 0x61, min range.2 0x7A)
  let upper := (max range.1 0x41, min range.2 0x5A)
  (if lower.1 ≤ lower.2 then [(lower.1 - 0x20, lower.2 - 0x20)] else []) ++
    (if upper.1 ≤ upper.2 then [(upper.1 + 0x20, upper.2 + 0x20)] else [])

/-- A set with both cases of its letters of the basic alphabet. -/
def eitherCase (set : CharRanges) : CharRanges :=
  ⟨tidy (set.ranges ++ set.ranges.flatMap otherCase), true⟩

end CharRanges

end HackVm
