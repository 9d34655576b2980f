/-!
Tables of code points: finding one by halving.

A table lists inclusive ranges in ascending order. A table of ranges with steps is gone through from
its beginning.
-/

namespace Provision.Text

/-- The range of a table, from index `lo` up to `hi`, that holds a code point. -/
def findRange (table : Array (Nat × Nat)) (code : Nat) : Nat → Nat → Nat → Option (Nat × Nat)
  | 0, _, _ => none
  | fuel + 1, lo, hi =>
    if lo < hi then
      let mid := (lo + hi) / 2
      match table[mid]? with
      | none => none
      | some (first, last) =>
        if code < first then findRange table code fuel lo mid
        else if last < code then findRange table code fuel (mid + 1) hi
        else some (first, last)
    else none

/-- The range of a table that holds a code point. -/
def rangeOf? (table : Array (Nat × Nat)) (code : Nat) : Option (Nat × Nat) :=
  findRange table code table.size 0 table.size

/-- Whether a table holds a code point. -/
def inRanges (table : Array (Nat × Nat)) (code : Nat) : Bool := (rangeOf? table code).isSome

/-- Whether a table of ranges with steps holds a code point. -/
def inSteps (table : Array (Nat × Nat × Nat)) (code : Nat) : Bool :=
  table.any fun e => e.1 ≤ code && code ≤ e.2.1 && (code - e.1) % e.2.2 = 0

end Provision.Text
