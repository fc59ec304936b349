/-!
# Runs of code points

Sets of characters as ascending arrays of runs, each given by its first and last code point.
-/

namespace Deduce.Text

/-- Whether `n` lies in one of the runs with an index from `low` to `high`, by halving. -/
def inRuns (runs : Array (Nat × Nat)) (n low high : Nat) : Bool :=
  if low < high then
    let middle := (low + high) / 2
    match runs[middle]? with
    | none => false
    | some (first, last) =>
      if n < first then inRuns runs n low middle
      else if last < n then inRuns runs n (middle + 1) high
      else true
  else false
termination_by high - low

def isInRuns (runs : Array (Nat × Nat)) (c : Char) : Bool := inRuns runs c.toNat 0 runs.size

end Deduce.Text
