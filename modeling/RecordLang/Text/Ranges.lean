/-!
Sets of characters given by ranges of code points.

* `Text.inRanges`: whether a character is in such a set.
-/

namespace RecordLang.Text

/-- Whether the code point of a character is in one of the given closed ranges. -/
def inRanges (ranges : List (Nat × Nat)) (c : Char) : Bool :=
  ranges.any fun r => r.1 ≤ c.toNat && c.toNat ≤ r.2

/-- A character is in the set if some range has it. -/
theorem inRanges_iff {rs : List (Nat × Nat)} {c : Char} :
    inRanges rs c = true ↔ ∃ r ∈ rs, r.1 ≤ c.toNat ∧ c.toNat ≤ r.2 := by
  simp [inRanges]

end RecordLang.Text
