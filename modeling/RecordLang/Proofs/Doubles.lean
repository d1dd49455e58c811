import Mathlib
import RecordLang.Decimal.Text

/-!
The cells of doubles.

A double that is neither zero nor a NaN is given by its sign and its other bits. Read as a number, these
count the positive doubles upwards. The cell of each ends where that of the next begins, and of two
neighbours only the even one has the end between them. So no rational lies in the cells of two doubles,
and a decimal that lies in the cell of a double tells which one it is.

* `Decimal.magnitudeBits`: the bits below the sign.
* `Decimal.Cell.Holds`: a rational lies in a cell.
* `Decimal.cellAt`: the cells of the positive doubles in their order.
* `Decimal.step_cases`: from one double to the next.
* `Decimal.eq_of_holds`: no rational lies in two cells.
-/

namespace RecordLang.Decimal

open Float.Model.UnpackedFloat (unpackExponent unpackMantissa)

/-! ### The bits of a double -/

/-- The bits of a double below the sign. -/
def magnitudeBits (x : Float) : Nat :=
  x.toBits.toNat % 2 ^ 63

section

variable {x y : Float}

lemma mantissaBits_eq (x : Float) : mantissaBits x = magnitudeBits x % 2 ^ 52 := by
  rw [mantissaBits, magnitudeBits, Nat.pow_eq]
  omega

lemma exponentBits_eq (x : Float) : exponentBits x = magnitudeBits x / 2 ^ 52 := by
  rw [exponentBits, magnitudeBits, Nat.pow_eq, Nat.pow_eq]
  omega

/-- A double is given by its sign and the other bits. -/
lemma eq_of_bits (hsign : signBit x = signBit y) (hbits : magnitudeBits x = magnitudeBits y) :
    x = y := by
  have hx : x.toBits.toNat < 2 ^ 64 := x.toBits.toNat_lt
  have hy : y.toBits.toNat < 2 ^ 64 := y.toBits.toNat_lt
  rw [signBit, signBit, Nat.pow_eq, Bool.eq_iff_iff, beq_iff_eq, beq_iff_eq] at hsign
  rw [magnitudeBits, magnitudeBits] at hbits
  rw [← Float.toBits_inj, ← UInt64.toNat_inj]
  omega

/-- Both infinities have the highest exponent and no mantissa. -/
lemma magnitudeBits_of_isInf (h : x.isInf = true) : magnitudeBits x = 2047 * 2 ^ 52 := by
  have hfields : @unpackExponent .binary64 x.toBits.toBitVec = -1#11 ∧
      @unpackMantissa .binary64 x.toBits.toBitVec = 0#52 := by
    have hinf : (Float.Model.UnpackedFloat.unpack .binary64 x.toBits.toBitVec).isInf = true := h
    simp only [Float.Model.UnpackedFloat.unpack] at hinf
    split at hinf
    · split at hinf
      · constructor <;> assumption
      · cases hinf
    · split at hinf
      · split at hinf <;> cases hinf
      · cases hinf
  rw [Float.Model.UnpackedFloat.unpackExponent_def, Float.Model.UnpackedFloat.unpackMantissa_def]
    at hfields
  have he := congrArg BitVec.toNat hfields.1
  have hm := congrArg BitVec.toNat hfields.2
  rw [BitVec.extractLsb'_toNat, Nat.shiftRight_eq_div_pow] at he hm
  have hbits : x.toBits.toBitVec.toNat = x.toBits.toNat := rfl
  rw [hbits] at he hm
  rw [magnitudeBits]
  simp at he hm
  omega

/-- A double is equal to zero if it is zero up to the sign. -/
lemma beq_zero_iff : (x == 0) = true ↔ magnitudeBits x = 0 := by
  have hbits : ∀ {x y : Float}, x = y ↔ x.toBits.toNat = y.toBits.toNat := by
    intro x y
    rw [UInt64.toNat_inj, Float.toBits_inj]
  have hzero : (0 : Float).toBits.toNat = 0 := by decide
  have hminus : (-0 : Float).toBits.toNat = 2 ^ 63 := by decide
  have hnan : Float.nan.toBits.toNat = 2047 * 2 ^ 52 + 2 ^ 51 := by decide
  have hx : x.toBits.toNat < 2 ^ 64 := x.toBits.toNat_lt
  rw [Float.beq_iff_ne_nan_and_eq, ne_eq, ne_eq, hbits, hbits, hbits, hbits, hbits, hzero, hminus, hnan,
    magnitudeBits]
  constructor
  · rintro ⟨-, -, h⟩
    omega
  · intro h
    have hends : x.toBits.toNat = 0 ∨ x.toBits.toNat = 2 ^ 63 := by omega
    exact ⟨by omega, by decide, hends.imp_right fun hminus => Or.inr ⟨hminus, rfl⟩⟩

/-- The two zeros are equal. -/
lemma beq_of_beq_zero (hx : (x == 0) = true) (hy : (y == 0) = true) : (x == y) = true := by
  have hcases : ∀ {z : Float}, (z == 0) = true → z = 0 ∨ z = -0 := by
    intro z hz
    obtain ⟨-, -, hz | ⟨hz, -⟩ | ⟨hz, -⟩⟩ := Float.beq_iff_ne_nan_and_eq.mp hz
    · exact Or.inl hz
    · exact Or.inl hz
    · exact Or.inr hz
  obtain rfl | rfl := hcases hx <;> obtain rfl | rfl := hcases hy <;> decide

end

/-! ### Cells of rationals -/

namespace Cell

/-- The lower end of the cell. -/
def lower (c : Cell) : ℚ :=
  c.low / c.scale

/-- The upper end of the cell. -/
def upper (c : Cell) : ℚ :=
  c.high / c.scale

/-- The number whose cell it is. -/
def number (c : Cell) : ℚ :=
  c.value / c.scale

/-- A rational lies in the cell; only that of an even number has its ends. -/
structure Holds (c : Cell) (p : ℚ) : Prop where
  lower_le : c.lower ≤ p
  le_upper : p ≤ c.upper
  inside : c.closed = false → c.lower < p ∧ p < c.upper

/-- Comparisons with a decimal are made without fractions. -/
lemma fraction_le_decimal_iff {scale : Nat} (hscale : 0 < scale) (a d : Nat) (k : Int) :
    ((a : ℚ) / scale ≤ d * 10 ^ k ↔ a * 10 ^ (-k).toNat ≤ d * scale * 10 ^ k.toNat) ∧
      ((d : ℚ) * 10 ^ k ≤ a / scale ↔ d * scale * 10 ^ k.toNat ≤ a * 10 ^ (-k).toNat) := by
  have hpos : (0 : ℚ) < scale * 10 ^ (-k).toNat := by positivity
  have hpow : (10 : ℚ) ^ k * 10 ^ (-k).toNat = 10 ^ k.toNat := by
    rw [← zpow_natCast, ← zpow_natCast, ← zpow_add₀ (by norm_num)]
    congr 1
    omega
  have hfraction : (a : ℚ) / scale * (scale * 10 ^ (-k).toNat) = (a * 10 ^ (-k).toNat : ℕ) := by
    push_cast
    field_simp
  have hdecimal : (d : ℚ) * 10 ^ k * (scale * 10 ^ (-k).toNat) = (d * scale * 10 ^ k.toNat : ℕ) := by
    push_cast
    rw [← hpow]
    ring
  rw [← mul_le_mul_iff_of_pos_right hpos, hfraction, hdecimal, Nat.cast_le,
    ← mul_le_mul_iff_of_pos_right hpos (b := (d : ℚ) * 10 ^ k), hfraction, hdecimal, Nat.cast_le]
  exact ⟨Iff.rfl, Iff.rfl⟩

lemma contains_iff_holds {c : Cell} (hscale : 0 < c.scale) (d : Nat) (k : Int) :
    c.contains d k = true ↔ c.Holds (d * 10 ^ k) := by
  obtain ⟨hlow, hlow'⟩ := fraction_le_decimal_iff hscale c.low d k
  obtain ⟨hhigh', hhigh⟩ := fraction_le_decimal_iff hscale c.high d k
  have hholds : c.Holds (d * 10 ^ k) ↔ c.lower ≤ d * 10 ^ k ∧ d * 10 ^ k ≤ c.upper ∧
      (c.closed = false → c.lower < d * 10 ^ k ∧ d * 10 ^ k < c.upper) :=
    ⟨fun h => ⟨h.lower_le, h.le_upper, h.inside⟩, fun h => ⟨h.1, h.2.1, h.2.2⟩⟩
  rw [hholds, ← not_le (b := c.lower), ← not_le (a := c.upper), lower, upper, hlow, hlow', hhigh, hhigh',
    contains]
  cases c.closed <;> simp
  omega

/-! ### The ends of a cell -/

section

variable (m : Nat) (q : Int) (narrow : Bool)

/-- Cells are given in quarters of the last binary place. -/
lemma quarter_eq (a : Nat) :
    ((a * Nat.pow 2 (q - 2).toNat : ℕ) : ℚ) / (Nat.pow 2 (2 - q).toNat : ℕ) = a * 2 ^ (q - 2) := by
  have hpow : (2 : ℚ) ^ (q - 2) * 2 ^ (2 - q).toNat = 2 ^ (q - 2).toNat := by
    rw [← zpow_natCast, ← zpow_natCast, ← zpow_add₀ (by norm_num)]
    congr 1
    omega
  rw [Nat.pow_eq, Nat.pow_eq, div_eq_iff (by positivity), Nat.cast_mul, Nat.cast_pow, Nat.cast_pow,
    Nat.cast_ofNat, ← hpow, mul_assoc]

lemma scale_ofBinary_pos : 0 < (ofBinary m q narrow).scale :=
  Nat.pow_pos (by decide)

lemma upper_ofBinary : (ofBinary m q narrow).upper = (4 * m + 2) * 2 ^ (q - 2) := by
  rw [upper, ofBinary, quarter_eq]
  push_cast
  rfl

lemma number_ofBinary : (ofBinary m q narrow).number = 4 * m * 2 ^ (q - 2) := by
  rw [number, ofBinary, quarter_eq]
  push_cast
  rfl

lemma lower_ofBinary (hm : 0 < m) :
    (ofBinary m q narrow).lower = (4 * m - if narrow then 1 else 2) * 2 ^ (q - 2) := by
  rw [lower, ofBinary, quarter_eq, Nat.cast_sub (by split <;> omega)]
  push_cast
  rfl

end

end Cell

/-! ### Cells side by side -/

/-- The significand of the positive double with the given bits. -/
def significand (n : Nat) : Nat :=
  if n / 2 ^ 52 = 0 then n % 2 ^ 52 else 2 ^ 52 + n % 2 ^ 52

/-- The exponent of its last binary place. -/
def lastPlace (n : Nat) : Int :=
  max (n / 2 ^ 52 : Nat) 1 - 1075

/-- Whether its neighbour below has a smaller last place. -/
def isNarrow (n : Nat) : Bool :=
  n % 2 ^ 52 == 0 && 1 < n / 2 ^ 52

/-- The cell of the positive double with the given bits. -/
def cellAt (n : Nat) : Cell :=
  .ofBinary (significand n) (lastPlace n) (isNarrow n)

lemma cell_eq (x : Float) : cell x = cellAt (magnitudeBits x) := by
  simp only [cell, cellAt, significand, lastPlace, isNarrow, ← mantissaBits_eq, ← exponentBits_eq]
  by_cases hzero : exponentBits x = 0
  · simp [hzero]
  · have hlast : max (exponentBits x : Int) 1 = exponentBits x := by omega
    simp [hzero, hlast]

section

variable {n n' : Nat}

lemma significand_pos (hn : 0 < n) : 0 < significand n := by
  unfold significand
  split <;> omega

lemma significand_lt (n : Nat) : significand n < 2 ^ 53 := by
  unfold significand
  split <;> omega

lemma significand_of_isNarrow (h : isNarrow n = true) : significand n = 2 ^ 52 := by
  simp only [isNarrow, Bool.and_eq_true, beq_iff_eq, decide_eq_true_eq] at h
  rw [significand, if_neg (by omega), h.1, Nat.add_zero]

/-- **The next double** is a step in the last place away, which may carry into the exponent. -/
lemma step_cases (n : Nat) :
    (isNarrow (n + 1) = false ∧ significand (n + 1) = significand n + 1 ∧
      lastPlace (n + 1) = lastPlace n) ∨
    (isNarrow (n + 1) = true ∧ significand n = 2 ^ 53 - 1 ∧ lastPlace (n + 1) = lastPlace n + 1) := by
  simp only [significand, lastPlace, isNarrow, Bool.and_eq_false_iff, Bool.and_eq_true, beq_iff_eq,
    beq_eq_false_iff_ne, decide_eq_true_eq, decide_eq_false_iff_not]
  by_cases hcarry : (n + 1) % 2 ^ 52 = 0 ∧ 1 < (n + 1) / 2 ^ 52
  · right
    refine ⟨hcarry, ?_, by omega⟩
    rw [if_neg (by omega)]
    omega
  · left
    refine ⟨by omega, ?_, by omega⟩
    split <;> split <;> omega

/-- Cells leave no gap. -/
lemma upper_cellAt (n : Nat) : (cellAt n).upper = (cellAt (n + 1)).lower := by
  rw [cellAt, cellAt, Cell.upper_ofBinary, Cell.lower_ofBinary _ _ _ (significand_pos n.succ_pos)]
  obtain ⟨hnarrow, hsig, hlast⟩ | ⟨hnarrow, hsig, hlast⟩ := step_cases n
  · rw [hnarrow, hsig, hlast]
    push_cast
    ring
  · rw [significand_of_isNarrow hnarrow, hnarrow, hsig, hlast, add_sub_right_comm,
      zpow_add_one₀ (by norm_num)]
    norm_num
    ring

lemma lower_lt_upper (hn : 0 < n) : (cellAt n).lower < (cellAt n).upper := by
  rw [cellAt, Cell.upper_ofBinary, Cell.lower_ofBinary _ _ _ (significand_pos hn)]
  have hends : ∀ b : Bool, (4 * significand n - if b then 1 else 2 : ℚ) < 4 * significand n + 2 := by
    intro b
    cases b <;> simp <;> linarith
  exact mul_lt_mul_of_pos_right (hends _) (by positivity)

lemma upper_le_lower (h : n < n') : (cellAt n).upper ≤ (cellAt n').lower := by
  induction n', h using Nat.le_induction with
  | base => exact (upper_cellAt n).le
  | succ n' h ih =>
      calc (cellAt n).upper
          ≤ (cellAt n').lower := ih
        _ ≤ (cellAt n').upper := (lower_lt_upper (by omega)).le
        _ = (cellAt (n' + 1)).lower := upper_cellAt n'

lemma closed_cellAt : (cellAt n).closed = true ↔ n % 2 = 0 := by
  rw [cellAt, Cell.ofBinary, beq_iff_eq, significand]
  split <;> omega

/-- **No rational lies in two cells**: neighbours do not both have the end between them. -/
theorem eq_of_holds {p : ℚ} (h : (cellAt n).Holds p) (h' : (cellAt n').Holds p) : n = n' := by
  wlog hlt : n < n' generalizing n n'
  · obtain heq | hlt' := Nat.eq_or_lt_of_not_lt hlt
    · exact heq
    · exact (this h' h hlt').symm
  have hle := upper_le_lower hlt
  have hclosed : (cellAt n).closed = true := by
    by_contra hopen
    have := (h.inside (Bool.eq_false_of_not_eq_true hopen)).2
    linarith [h'.lower_le]
  have hclosed' : (cellAt n').closed = true := by
    by_contra hopen
    have := (h'.inside (Bool.eq_false_of_not_eq_true hopen)).1
    linarith [h.le_upper]
  rw [closed_cellAt] at hclosed hclosed'
  have hgap : (cellAt n).upper < (cellAt n').lower :=
    calc (cellAt n).upper
        = (cellAt (n + 1)).lower := upper_cellAt n
      _ < (cellAt (n + 1)).upper := lower_lt_upper n.succ_pos
      _ ≤ (cellAt n').lower := upper_le_lower (by omega)
  linarith [h.le_upper, h'.lower_le]

end

end RecordLang.Decimal
