/-!
Contract: sets of characters given as runs of code points.

Owns:
- a run `(first, last, stride)`: every `stride`-th code point from `first` to `last`;
- membership, with a table written in increasing order.

Does not own: the tables of particular properties.
-/

namespace ContentGraph.Text

/-- A set of code points: runs `(first, last, stride)`, in increasing order. -/
abbrev CharRuns := List (Nat × Nat × Nat)

namespace CharRuns

/-- Whether a code point lies in one of the runs. -/
def holds : CharRuns -> Nat -> Bool
  | [], _ => false
  | (first, last, stride) :: rest, point =>
      if point < first then false
      else if point ≤ last ∧ (point - first) % stride = 0 then true
      else holds rest point

end CharRuns

end ContentGraph.Text
