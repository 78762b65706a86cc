/-
  Classes of characters given by tables of code points.

  A class of the Unicode standard is a list of closed ranges of code points;
  `memRanges` looks a character up in it.
-/
namespace SqlWeave.Text

/-- Whether the code point of `c` lies in one of the closed ranges `rs`. -/
def memRanges (rs : List (Nat × Nat)) (c : Char) : Bool :=
  rs.any fun r => decide (r.1 ≤ c.toNat) && decide (c.toNat ≤ r.2)

theorem memRanges_iff {rs : List (Nat × Nat)} {c : Char} :
    memRanges rs c = true ↔ ∃ r ∈ rs, r.1 ≤ c.toNat ∧ c.toNat ≤ r.2 := by
  simp [memRanges]

end SqlWeave.Text
