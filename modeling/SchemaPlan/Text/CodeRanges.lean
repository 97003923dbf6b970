/-!
# Sets of characters given by code ranges

A character property of the Unicode standard is a table: the code points
that have it, as a list of inclusive ranges in ascending order. Membership
walks the list and stops at the first range that starts beyond the
character, so the order of the table is what makes a negative answer early
and right.
-/

namespace SchemaPlan.Text

/-- A set of code points: inclusive ranges, ascending and disjoint. -/
abbrev CodeRanges := List (Nat × Nat)

namespace CodeRanges

/-- Whether some range of the table holds the code point. -/
def containsCode : CodeRanges → Nat → Bool
  | [], _ => false
  | (low, high) :: rest, n =>
    if n < low then false else if n ≤ high then true else containsCode rest n

theorem containsCode_of_mem_first {low high n : Nat} (rest : CodeRanges) (h : low ≤ n)
    (h' : n ≤ high) : containsCode ((low, high) :: rest) n = true := by
  rw [containsCode, if_neg (Nat.not_lt.2 h), if_pos h']

theorem containsCode_cons_of_lt {low high n : Nat} (rest : CodeRanges) (h : low ≤ n)
    (h' : high < n) : containsCode ((low, high) :: rest) n = containsCode rest n := by
  rw [containsCode, if_neg (Nat.not_lt.2 h), if_neg (Nat.not_le.2 h')]

/-- Whether the character is in the set. -/
def contains (ranges : CodeRanges) (c : Char) : Bool :=
  ranges.containsCode c.toNat

end CodeRanges

end SchemaPlan.Text
