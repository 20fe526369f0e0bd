/-!
# Sets of code points

A property of characters is stored as the ranges of code points that have it, in increasing order.
-/

namespace MonkeyLexis.Unicode

/-- A set of code points: the first and the last member of each of its ranges. -/
abbrev CodePointSet := List (Nat × Nat)

def CodePointSet.contains (set : CodePointSet) (character : Char) : Bool :=
  set.any fun range => range.1 ≤ character.toNat && character.toNat ≤ range.2

end MonkeyLexis.Unicode
