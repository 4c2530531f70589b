/-!
# Ranges of code points

A set of code points as a table of ranges, which is searched by halving.
-/

namespace SafeFetch.Text

/-- Ranges of code points in ascending order, both ends included. -/
abbrev Ranges := Array (Nat × Nat)

namespace Ranges

/-- Whether some range of the table between positions `lo` and `hi` holds `n`. -/
def holdsBetween (table : Ranges) (n lo hi : Nat) : Bool :=
  if lo < hi then
    let mid := (lo + hi) / 2
    match table[mid]? with
    | none => false
    | some (first, last) =>
      if n < first then holdsBetween table n lo mid
      else if last < n then holdsBetween table n (mid + 1) hi
      else true
  else false
termination_by hi - lo

/-- Whether some range of the table holds `n`. -/
def holds (table : Ranges) (n : Nat) : Bool := table.holdsBetween n 0 table.size

end Ranges

end SafeFetch.Text
