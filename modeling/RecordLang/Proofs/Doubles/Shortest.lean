import RecordLang.Proofs.Doubles

/-!
The shortest decimal of a double lies in its cell.

The candidates with a given number of digits are the two neighbours of the double among the decimals
with that many digits. If neither lies in the cell, the cell is not wider than the step from one decimal
to the next. With seventeen digits the step is smaller than any cell.

* `Decimal.Cell.zpow_leading_le`: the leading digit.
* `Decimal.Cell.holds_of_onGrid`, `Decimal.Cell.isSome_onGrid`: the candidates with some digits.
* `Decimal.Cell.holds_shortest`: the search succeeds if the cell is wide enough.
* `Decimal.shortest_holds`: cells of doubles are.
-/

namespace RecordLang.Decimal

namespace Cell

/-! ### The leading digit -/

lemma lt_pow_digitCount (n : Nat) : n < 10 ^ digitCount n :=
  (Nat.length_toDigits_le_iff (by decide) Nat.length_toDigits_pos).mp le_rfl

lemma pow_digitCount_le {n : Nat} (hn : 0 < n) : 10 ^ (digitCount n - 1) ≤ n := by
  obtain hone | hmore := le_or_gt (digitCount n) 1
  · rw [Nat.sub_eq_zero_of_le hone, Nat.pow_zero]
    exact hn
  · by_contra hlt
    have := (Nat.length_toDigits_le_iff (b := 10) (by decide) (by omega)).mpr (not_le.mp hlt)
    rw [← digitCount] at this
    omega

variable {c : Cell}

/-- The number is at least what its leading digit stands for. -/
lemma zpow_leading_le (hscale : 0 < c.scale) (hvalue : 0 < c.value) :
    (10 : ℚ) ^ c.leading ≤ c.number := by
  have hscale' : (0 : ℚ) < c.scale := by exact_mod_cast hscale
  rw [number, le_div_iff₀ hscale', leading]
  split
  case isTrue hle =>
    have hquotient : 0 < c.value / c.scale := Nat.div_pos hle hscale
    have hcount : 0 < digitCount (c.value / c.scale) := Nat.length_toDigits_pos
    have hexponent : (digitCount (c.value / c.scale) : Int) - 1
        = (digitCount (c.value / c.scale) - 1 : ℕ) := by omega
    have hle : 10 ^ (digitCount (c.value / c.scale) - 1) * c.scale ≤ c.value :=
      (Nat.le_div_iff_mul_le hscale).mp (pow_digitCount_le hquotient)
    rw [hexponent, zpow_natCast]
    exact_mod_cast hle
  case isFalse hlt =>
    have hlt := lt_pow_digitCount ((c.scale - 1) / c.value)
    rw [Nat.div_lt_iff_lt_mul hvalue] at hlt
    have hle : c.scale ≤ c.value * 10 ^ digitCount ((c.scale - 1) / c.value) := by
      rw [Nat.mul_comm]
      omega
    rw [zpow_neg, zpow_natCast, inv_mul_le_iff₀ (by positivity), mul_comm]
    exact_mod_cast hle

/-! ### Candidates -/

/-- The largest decimal on a grid that is not above the number. -/
lemma floor_le_number (hscale : 0 < c.scale) (k : Int) :
    let below := c.value * Nat.pow 10 (-k).toNat / (c.scale * Nat.pow 10 k.toNat)
    (below : ℚ) * 10 ^ k ≤ c.number ∧ c.number < (below + 1 : ℕ) * 10 ^ k := by
  intro below
  have hstep : 0 < c.scale * Nat.pow 10 k.toNat := Nat.mul_pos hscale (Nat.pow_pos (by decide))
  rw [number, ← not_le, (fraction_le_decimal_iff hscale c.value below k).2,
    (fraction_le_decimal_iff hscale c.value (below + 1) k).2, Nat.mul_assoc, Nat.mul_assoc, not_le]
  refine ⟨Nat.div_mul_le_self _ _, ?_⟩
  rw [Nat.mul_comm (below + 1)]
  exact Nat.lt_mul_div_succ _ hstep

/-- Candidates lie in the cell. -/
lemma holds_of_onGrid (hscale : 0 < c.scale) {k k' : Int} {d : Nat} (h : c.onGrid k = some (d, k')) :
    c.Holds (d * 10 ^ k') := by
  rw [← contains_iff_holds hscale]
  simp only [onGrid] at h
  split at h
  · cases h
    assumption
  · cases h
    assumption
  · split at h <;> cases h <;> assumption
  · cases h

/-- If no candidate lies in the cell, the cell is not wider than the grid. -/
lemma isSome_onGrid (hscale : 0 < c.scale) (hlow : c.lower < c.number) (hhigh : c.number < c.upper)
    {k : Int} (hwide : (10 : ℚ) ^ k < c.upper - c.lower) : (c.onGrid k).isSome = true := by
  obtain ⟨hbelow, habove⟩ := floor_le_number hscale k
  set below := c.value * Nat.pow 10 (-k).toNat / (c.scale * Nat.pow 10 k.toNat)
  have hsome : c.contains below k = true ∨ c.contains (below + 1) k = true := by
    rw [contains_iff_holds hscale, contains_iff_holds hscale]
    obtain hin | hout := lt_or_ge c.lower (below * 10 ^ k)
    · exact Or.inl ⟨hin.le, by linarith, fun _ => ⟨hin, by linarith⟩⟩
    · have hin : ((below + 1 : ℕ) : ℚ) * 10 ^ k < c.upper := by
        push_cast
        linarith
      exact Or.inr ⟨by linarith, hin.le, fun _ => ⟨by linarith, hin⟩⟩
  simp only [onGrid]
  split
  case h_4 hbelow habove =>
    obtain hin | hin := hsome
    · cases hin.symm.trans hbelow
    · cases hin.symm.trans habove
  all_goals rfl

/-- The search for the shortest decimal succeeds if seventeen digits suffice. -/
lemma holds_shortest (hscale : 0 < c.scale) (hvalue : 0 < c.value) (hlow : c.lower < c.number)
    (hhigh : c.number < c.upper) (hwide : c.number < 10 ^ 16 * (c.upper - c.lower)) :
    c.Holds (c.shortest.1 * 10 ^ c.shortest.2) := by
  have hlast : (10 : ℚ) ^ (c.leading - 16) < c.upper - c.lower := by
    have hleading := zpow_leading_le hscale hvalue
    have hsplit : (10 : ℚ) ^ c.leading = 10 ^ 16 * 10 ^ (c.leading - 16) := by
      rw [← zpow_natCast, ← zpow_add₀ (by norm_num)]
      congr 1
      omega
    linarith
  have hfound : ((((List.range 17).map fun n : Nat => c.leading - (n : Int)).findSome? c.onGrid)).isSome
      = true := by
    rw [List.findSome?_isSome_iff]
    refine ⟨c.leading - 16, List.mem_map.mpr ⟨16, by simp, rfl⟩, isSome_onGrid hscale hlow hhigh hlast⟩
  obtain ⟨⟨d, k⟩, hd⟩ := Option.isSome_iff_exists.mp hfound
  obtain ⟨k', -, hgrid⟩ := List.exists_of_findSome?_eq_some hd
  rw [shortest, hd]
  exact holds_of_onGrid hscale hgrid

end Cell

/-- **The shortest decimal of a double lies in its cell.** -/
theorem shortest_holds {n : Nat} (hn : 0 < n) :
    (cellAt n).Holds ((cellAt n).shortest.1 * 10 ^ (cellAt n).shortest.2) := by
  have hsig : (1 : ℚ) ≤ significand n := by exact_mod_cast significand_pos hn
  have hsig' : (significand n : ℚ) + 1 ≤ 2 ^ 53 := by exact_mod_cast significand_lt n
  have hplace : (0 : ℚ) < 2 ^ (lastPlace n - 2) := by positivity
  have hvalue : 0 < (cellAt n).value :=
    Nat.mul_pos (Nat.mul_pos (by decide) (significand_pos hn)) (Nat.pow_pos (by decide))
  refine Cell.holds_shortest (Cell.scale_ofBinary_pos _ _ _) hvalue ?_ ?_ ?_
  · rw [cellAt, Cell.number_ofBinary, Cell.lower_ofBinary _ _ _ (significand_pos hn)]
    refine mul_lt_mul_of_pos_right ?_ hplace
    split <;> linarith
  · rw [cellAt, Cell.number_ofBinary, Cell.upper_ofBinary]
    exact mul_lt_mul_of_pos_right (by linarith) hplace
  · rw [cellAt, Cell.number_ofBinary, Cell.upper_ofBinary,
      Cell.lower_ofBinary _ _ _ (significand_pos hn), ← sub_mul, ← mul_assoc]
    refine mul_lt_mul_of_pos_right ?_ hplace
    split
    case isTrue hnarrow =>
      rw [significand_of_isNarrow hnarrow]
      norm_num
    case isFalse => linarith

end RecordLang.Decimal
