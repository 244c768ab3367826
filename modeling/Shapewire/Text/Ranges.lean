/-
Membership in a table of code point ranges.

The tables of character properties list closed ranges in increasing order.  A lookup
walks the table and stops at the first range that starts beyond the character, which
is sound exactly because the ranges are in order: no later range can hold it.
-/

namespace Shapewire.Text

/-- Whether `n` lies in one of the closed ranges of an increasing table. -/
def inRanges : List (Nat × Nat) → Nat → Bool
  | [], _ => false
  | (low, high) :: ranges, n =>
      if n < low then false else if n ≤ high then true else inRanges ranges n

end Shapewire.Text
