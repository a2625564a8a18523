/-!
# Tables of code-point ranges

A property of characters is given as a list of closed code-point ranges. The list is sorted and
its ranges do not overlap, but membership needs neither.
-/

namespace FallbackEnum

/-- A set of characters, as closed ranges of code points. -/
abbrev CodeRanges := List (Nat × Nat)

namespace CodeRanges

/-- A character belongs to the set when one of the ranges holds its code point. -/
def contains (table : CodeRanges) (c : Char) : Bool :=
  table.any fun range => range.1 ≤ c.toNat && c.toNat ≤ range.2

@[simp] theorem contains_nil (c : Char) : contains [] c = false := rfl

@[simp] theorem contains_cons (range : Nat × Nat) (table : CodeRanges) (c : Char) :
    contains (range :: table) c =
      ((range.1 ≤ c.toNat && c.toNat ≤ range.2) || contains table c) := rfl

end CodeRanges

end FallbackEnum
