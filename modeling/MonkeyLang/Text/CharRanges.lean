/-! Sets of characters written as closed ranges of code points. -/

namespace MonkeyLang

abbrev CharRanges := List (Nat × Nat)

def CharRanges.has (ranges : CharRanges) (char : Char) : Bool :=
  ranges.any fun range => decide (range.1 ≤ char.toNat) && decide (char.toNat ≤ range.2)

end MonkeyLang
