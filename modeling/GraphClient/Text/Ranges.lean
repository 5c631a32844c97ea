/-
  Sets of characters as ranges of code points.

  Key definitions include:
    * `GraphClient.Text.inRanges`

  A set is a list of ranges, ends included.
-/

------------------------------------------------------------
-- Ranges of Code Points
------------------------------------------------------------

namespace GraphClient

namespace Text

/- Whether a code point lies in one of the ranges. -/
def inRanges
    (ranges : List (Nat × Nat))
    (n : Nat) :
    Bool :=
  ranges.any (fun range => range.1 ≤ n && n ≤ range.2)

end Text

end GraphClient
