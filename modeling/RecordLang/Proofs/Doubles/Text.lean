import RecordLang.Proofs.Doubles.Shortest
import RecordLang.Proofs.Equality

/-!
What the text of a double says.

Read as a decimal, the text of a finite double lies in the cell of its absolute value, and no other double
has a rational in common with it. The infinities are written with letters. So the text determines the
double, up to the sign of zero, which is not written.

* `Decimal.readBack`: the rational that a decimal text stands for.
* `Decimal.readBack_positional`: positional text is read back as the decimal it was made of.
* `Decimal.holds_readBack_magnitude`: what is written lies in the cell.
* `Decimal.isNumberChar_of_mem_plain`, `Decimal.plain_ne_word`: which words are numbers.
* `Decimal.beq_of_plain_eq`: equal texts are of equal numbers.
-/

namespace RecordLang.Decimal

/-! ### Reading decimals -/

/-- The number that digits with a point between them stand for. -/
def readBack (text : List Char) : ℚ :=
  let whole := text.takeWhile (· != '.')
  let fraction := (text.dropWhile (· != '.')).tail
  Nat.ofDigitChars 10 (whole ++ fraction) 0 / 10 ^ fraction.length

section

variable {digits digits' : List Char}

lemma takeWhile_digits (hdigits : ∀ c ∈ digits, c.isDigit = true) (rest : List Char) :
    (digits ++ rest).takeWhile (· != '.') = digits ++ rest.takeWhile (· != '.') ∧
      (digits ++ rest).dropWhile (· != '.') = rest.dropWhile (· != '.') := by
  have hpoint : ∀ c ∈ digits, (c != '.') = true := by
    intro c hc
    rw [bne_iff_ne]
    rintro rfl
    exact absurd (hdigits _ hc) (by decide)
  exact ⟨List.takeWhile_append_of_pos hpoint, List.dropWhile_append_of_pos hpoint⟩

lemma readBack_whole (hdigits : ∀ c ∈ digits, c.isDigit = true) :
    readBack digits = Nat.ofDigitChars 10 digits 0 := by
  obtain ⟨htake, hdrop⟩ := takeWhile_digits hdigits []
  rw [List.append_nil] at htake hdrop
  simp [readBack, htake, hdrop]

lemma readBack_fraction (hdigits : ∀ c ∈ digits, c.isDigit = true) :
    readBack (digits ++ '.' :: digits') = Nat.ofDigitChars 10 (digits ++ digits') 0 / 10 ^ digits'.length := by
  obtain ⟨htake, hdrop⟩ := takeWhile_digits hdigits ('.' :: digits')
  simp [readBack, htake, hdrop]

end

/-! ### Positional text -/

lemma ofDigitChars_append_zeros (digits : List Char) (n : Nat) :
    Nat.ofDigitChars 10 (digits ++ List.replicate n '0') 0 = 10 ^ n * Nat.ofDigitChars 10 digits 0 := by
  rw [Nat.ofDigitChars_append, Nat.ofDigitChars_replicate_zero]

lemma ofDigitChars_zeros_append (digits : List Char) (n : Nat) :
    Nat.ofDigitChars 10 (List.replicate n '0' ++ digits) 0 = Nat.ofDigitChars 10 digits 0 := by
  rw [Nat.ofDigitChars_append, Nat.ofDigitChars_replicate_zero, Nat.mul_zero]

lemma isDigit_of_mem_zeros {c : Char} {n : Nat} (hc : c ∈ List.replicate n '0') : c.isDigit = true := by
  rw [List.eq_of_mem_replicate hc]
  rfl

/-- The digits with zeros or a point, so that the last digit has exponent `k`. -/
def place (digits : List Char) (k : Int) : List Char :=
  let point := (digits.length : Int) + k
  if 0 ≤ k then
    digits ++ List.replicate k.toNat '0'
  else if 0 < point then
    digits.take point.toNat ++ '.' :: digits.drop point.toNat
  else
    '0' :: '.' :: (List.replicate (-point).toNat '0' ++ digits)

/-- The digits of a number without the zeros at the end. -/
def strippedDigits (d : Nat) : List Char :=
  ((Nat.toDigits 10 d).reverse.dropWhile (· == '0')).reverse

/-- How many zeros that are. -/
def strippedZeros (d : Nat) : Nat :=
  (Nat.toDigits 10 d).reverse.length - (strippedDigits d).length

lemma toList_positional (d : Nat) (k : Int) :
    (positional d k).toList = place (strippedDigits d) (k + strippedZeros d) := by
  rw [positional, String.toList_ofList]
  rfl

lemma toDigits_eq (d : Nat) :
    Nat.toDigits 10 d = strippedDigits d ++ List.replicate (strippedZeros d) '0' := by
  obtain ⟨zeros, hzeros, hall⟩ : ∃ zeros : List Char, (Nat.toDigits 10 d).reverse
      = zeros ++ (strippedDigits d).reverse ∧ ∀ c ∈ zeros, c = '0' := by
    refine ⟨(Nat.toDigits 10 d).reverse.takeWhile (· == '0'), ?_, fun c hc => ?_⟩
    · rw [strippedDigits, List.reverse_reverse, List.takeWhile_append_dropWhile]
    · simpa using List.mem_takeWhile_imp hc
  have hlength : strippedZeros d = zeros.length := by
    rw [strippedZeros, hzeros, List.length_append, List.length_reverse, Nat.add_sub_cancel]
  have hdigits : Nat.toDigits 10 d = strippedDigits d ++ zeros.reverse := by
    rw [← List.reverse_inj, hzeros, List.reverse_append, List.reverse_reverse]
  rw [hdigits, hlength, List.eq_replicate_of_mem hall, List.reverse_replicate, List.length_replicate]

lemma isDigit_of_mem_strippedDigits {d : Nat} {c : Char} (hc : c ∈ strippedDigits d) :
    c.isDigit = true := by
  refine Nat.isDigit_of_mem_toDigits (b := 10) (by decide) (by decide) (n := d) ?_
  rw [toDigits_eq]
  exact List.mem_append_left _ hc

lemma eq_ofDigitChars_strippedDigits (d : Nat) :
    d = 10 ^ strippedZeros d * Nat.ofDigitChars 10 (strippedDigits d) 0 := by
  rw [← ofDigitChars_append_zeros, ← toDigits_eq, Nat.ofDigitChars_ten_toDigits]

lemma readBack_place {digits : List Char} (hdigits : ∀ c ∈ digits, c.isDigit = true) (k : Int) :
    readBack (place digits k) = Nat.ofDigitChars 10 digits 0 * 10 ^ k := by
  rw [place]
  split
  case isTrue hk =>
    -- a whole number
    have hpow : (10 : ℚ) ^ k = 10 ^ k.toNat := by
      rw [← zpow_natCast, Int.toNat_of_nonneg hk]
    rw [readBack_whole (List.forall_mem_append.mpr ⟨hdigits, fun c => isDigit_of_mem_zeros⟩),
      ofDigitChars_append_zeros, hpow]
    push_cast
    ring
  case isFalse hk =>
    have hpow : (10 : ℚ) ^ k = (10 ^ (-k).toNat)⁻¹ := by
      rw [← zpow_natCast, ← zpow_neg, Int.toNat_of_nonneg (by omega), neg_neg]
    split
    case isTrue hpoint =>
      -- the point stands between digits
      have hlength : (digits.drop (digits.length + k).toNat).length = (-k).toNat := by
        rw [List.length_drop]
        omega
      rw [readBack_fraction fun c hc => hdigits c (List.mem_of_mem_take hc), List.take_append_drop,
        hlength, hpow, div_eq_mul_inv]
    case isFalse hpoint =>
      -- the point stands before all digits
      have hlength : (List.replicate (-(digits.length + k)).toNat '0' ++ digits).length = (-k).toNat := by
        rw [List.length_append, List.length_replicate]
        omega
      have hvalue : Nat.ofDigitChars 10
          (['0'] ++ (List.replicate (-(digits.length + k)).toNat '0' ++ digits)) 0
            = Nat.ofDigitChars 10 digits 0 := by
        rw [← ofDigitChars_zeros_append digits (-(digits.length + k)).toNat]
        exact ofDigitChars_zeros_append _ 1
      rw [← List.singleton_append, readBack_fraction (by simp), hvalue, hlength, hpow, div_eq_mul_inv]

theorem readBack_positional (d : Nat) (k : Int) : readBack (positional d k).toList = d * 10 ^ k := by
  have hd : (d : ℚ) = 10 ^ strippedZeros d * Nat.ofDigitChars 10 (strippedDigits d) 0 := by
    exact_mod_cast eq_ofDigitChars_strippedDigits d
  rw [toList_positional, readBack_place fun c hc => isDigit_of_mem_strippedDigits hc, hd,
    zpow_add₀ (by norm_num), zpow_natCast]
  ring

/-- Only digits and points are written. -/
lemma isDigit_or_of_mem_place {digits : List Char} (hdigits : ∀ c ∈ digits, c.isDigit = true) {k : Int}
    {c : Char} (hc : c ∈ place digits k) : c.isDigit = true ∨ c = '.' := by
  rw [place] at hc
  split at hc
  · exact Or.inl ((List.mem_append.mp hc).elim (hdigits c) isDigit_of_mem_zeros)
  · split at hc
    · obtain hc | hc := List.mem_append.mp hc
      · exact Or.inl (hdigits c (List.mem_of_mem_take hc))
      · obtain rfl | hc := List.mem_cons.mp hc
        · exact Or.inr rfl
        · exact Or.inl (hdigits c (List.mem_of_mem_drop hc))
    · obtain rfl | hc := List.mem_cons.mp hc
      · exact Or.inl rfl
      · obtain rfl | hc := List.mem_cons.mp hc
        · exact Or.inr rfl
        · exact Or.inl ((List.mem_append.mp hc).elim isDigit_of_mem_zeros (hdigits c))

/-! ### Magnitudes -/

/-- Zero lies in the cell below all others. -/
lemma holds_zero : (cellAt 0).Holds 0 := by
  have hlower : (cellAt 0).lower = 0 := by
    rw [Cell.lower, div_eq_zero_iff]
    exact Or.inl rfl
  have hupper : 0 ≤ (cellAt 0).upper := by
    rw [cellAt, Cell.upper_ofBinary]
    positivity
  have hclosed : (cellAt 0).closed = true := closed_cellAt.mpr rfl
  refine ⟨hlower.le, hupper, fun hopen => ?_⟩
  cases hclosed.symm.trans hopen

section

variable {x y : Float}

lemma magnitude_eq_inf (h : x.isInf = true) : magnitude x = "inf" :=
  if_pos h

lemma magnitude_eq_zero (h : (x == 0) = true) : magnitude x = "0" := by
  have hfinite : ¬ x.isInf = true := by
    intro hinf
    have hzero := beq_zero_iff.mp h
    rw [magnitudeBits_of_isInf hinf] at hzero
    omega
  rw [magnitude, if_neg hfinite, if_pos h]

lemma magnitude_eq_positional (h : ¬ x.isInf = true) (h' : ¬ (x == 0) = true) :
    magnitude x = positional (cell x).shortest.1 (cell x).shortest.2 := by
  rw [magnitude, if_neg h, if_neg h']

/-- What is written for a finite double lies in its cell. -/
lemma holds_readBack_magnitude (h : ¬ x.isInf = true) :
    (cellAt (magnitudeBits x)).Holds (readBack (magnitude x).toList) := by
  by_cases hzero : (x == 0) = true
  · have hread : readBack "0".toList = 0 := by
      rw [readBack_whole (by simp)]
      rfl
    rw [magnitude_eq_zero hzero, beq_zero_iff.mp hzero, hread]
    exact holds_zero
  · have hpos : 0 < magnitudeBits x := Nat.pos_of_ne_zero fun hbits => hzero (beq_zero_iff.mpr hbits)
    rw [magnitude_eq_positional h hzero, readBack_positional, cell_eq]
    exact shortest_holds hpos

/-- What is written for a finite double has digits and points only. -/
lemma isDigit_or_of_mem_magnitude (h : ¬ x.isInf = true) {c : Char} (hc : c ∈ (magnitude x).toList) :
    c.isDigit = true ∨ c = '.' := by
  by_cases hzero : (x == 0) = true
  · rw [magnitude_eq_zero hzero] at hc
    obtain rfl : c = '0' := by simpa using hc
    exact Or.inl rfl
  · rw [magnitude_eq_positional h hzero, toList_positional] at hc
    exact isDigit_or_of_mem_place (fun c => isDigit_of_mem_strippedDigits) hc

/-- The text of a magnitude determines it. -/
lemma magnitudeBits_eq_of_magnitude (h : magnitude x = magnitude y) :
    magnitudeBits x = magnitudeBits y := by
  have hletter : ∀ {z : Float}, magnitude z = "inf" → z.isInf = true := by
    intro z hz
    by_contra hfinite
    have hi := isDigit_or_of_mem_magnitude hfinite (c := 'i') (by rw [hz]; simp)
    exact absurd hi (by decide)
  by_cases hx : x.isInf = true
  · have hy := hletter (h ▸ magnitude_eq_inf hx)
    rw [magnitudeBits_of_isInf hx, magnitudeBits_of_isInf hy]
  · have hy : ¬ y.isInf = true := fun hy => hx (hletter (h.trans (magnitude_eq_inf hy)))
    have hholds := holds_readBack_magnitude hx
    rw [h] at hholds
    exact eq_of_holds hholds (holds_readBack_magnitude hy)

end

/-! ### Texts of doubles -/

/-- The characters in the texts of doubles. -/
def isNumberChar (c : Char) : Bool :=
  c.isAlphanum || c == '.' || c == '-'

section

variable {x y : Float}

/-- The text is that of the magnitude, with a sign before it if the double is negative. -/
lemma toList_plain (hx : x.isNaN = false) :
    (plain x).toList
      = (if signBit x && !(x == 0) then ['-'] else []) ++ (magnitude x).toList := by
  by_cases hzero : (x == 0) = true
  · rw [plain, if_pos hzero, hzero, magnitude_eq_zero hzero, Bool.not_true, Bool.and_false]
    rfl
  · rw [plain, if_neg hzero, text, if_neg (by rw [hx]; exact Bool.false_ne_true),
      Bool.eq_false_of_not_eq_true hzero, Bool.not_false, Bool.and_true]
    split <;> simp

lemma magnitude_ne_nil (x : Float) : (magnitude x).toList ≠ [] := by
  by_cases hinf : x.isInf = true
  · simp [magnitude_eq_inf hinf]
  · -- nothing at all would be read as zero, which is not written so
    intro hnil
    have hholds := holds_readBack_magnitude hinf
    have hread : readBack [] = 0 := by simp [readBack]
    rw [hnil, hread] at hholds
    have hzero := beq_zero_iff.mpr (eq_of_holds hholds holds_zero)
    simp [magnitude_eq_zero hzero] at hnil

lemma isNumberChar_of_mem_magnitude {c : Char} (hc : c ∈ (magnitude x).toList) :
    isNumberChar c = true ∧ c ≠ '-' := by
  by_cases hinf : x.isInf = true
  · rw [magnitude_eq_inf hinf] at hc
    obtain rfl | rfl | rfl : c = 'i' ∨ c = 'n' ∨ c = 'f' := by simpa using hc
    all_goals decide
  · obtain hdigit | rfl := isDigit_or_of_mem_magnitude hinf hc
    · refine ⟨by simp [isNumberChar, Char.isAlphanum, hdigit], ?_⟩
      rintro rfl
      cases hdigit
    · decide

/-- The text of a number is made of letters, digits, points and minus signs. -/
lemma isNumberChar_of_mem_plain (hx : x.isNaN = false) {c : Char} (hc : c ∈ (plain x).toList) :
    isNumberChar c = true := by
  rw [toList_plain hx] at hc
  obtain hc | hc := List.mem_append.mp hc
  · obtain rfl : c = '-' := by
      split at hc <;> simp_all
    rfl
  · exact (isNumberChar_of_mem_magnitude hc).1

/-- It starts like no other word. -/
lemma plain_eq_cons (hx : x.isNaN = false) : ∃ c rest, (plain x).toList = c :: rest ∧
    (c.isDigit = true ∨ c = '.' ∨ c = '-' ∨ c = 'i') := by
  obtain ⟨c, rest, hmagnitude⟩ := List.exists_cons_of_ne_nil (magnitude_ne_nil x)
  rw [toList_plain hx]
  split
  · exact ⟨'-', (magnitude x).toList, rfl, by simp⟩
  · refine ⟨c, rest, hmagnitude, ?_⟩
    by_cases hinf : x.isInf = true
    · rw [magnitude_eq_inf hinf] at hmagnitude
      obtain rfl : 'i' = c := List.head_eq_of_cons_eq hmagnitude
      simp
    · have hc : c ∈ (magnitude x).toList := by
        rw [hmagnitude]
        exact List.mem_cons_self
      exact (isDigit_or_of_mem_magnitude hinf hc).imp_right Or.inl

/-- No number is written like a boolean or nil. -/
lemma plain_ne_word (hx : x.isNaN = false) {word : String} (hword : word ∈ ["true", "false", "nil"]) :
    plain x ≠ word := by
  intro h
  obtain ⟨c, rest, hcons, hc⟩ := plain_eq_cons hx
  have hhead : c = 't' ∨ c = 'f' ∨ c = 'n' := by
    rw [h] at hcons
    simp only [List.mem_cons, List.not_mem_nil, or_false] at hword
    obtain rfl | rfl | rfl := hword
    · exact Or.inl (List.head_eq_of_cons_eq hcons).symm
    · exact Or.inr (Or.inl (List.head_eq_of_cons_eq hcons).symm)
    · exact Or.inr (Or.inr (List.head_eq_of_cons_eq hcons).symm)
  obtain rfl | rfl | rfl := hhead <;> exact absurd hc (by decide)

/-- **Equal texts are of equal numbers.** -/
theorem beq_of_plain_eq (hx : x.isNaN = false) (hy : y.isNaN = false) (h : plain x = plain y) :
    (x == y) = true := by
  have htext := congrArg String.toList h
  rw [toList_plain hx, toList_plain hy] at htext
  obtain ⟨hsign, hmagnitude⟩ : (signBit x && !(x == 0)) = (signBit y && !(y == 0)) ∧
      magnitude x = magnitude y := by
    have hminus : ∀ {z : Float} {rest : List Char}, '-' :: rest ≠ (magnitude z).toList := by
      intro z rest heq
      exact (isNumberChar_of_mem_magnitude (heq ▸ List.mem_cons_self)).2 rfl
    rw [← String.toList_inj]
    cases hsx : (signBit x && !(x == 0)) <;> cases hsy : (signBit y && !(y == 0)) <;> rw [hsx, hsy] at htext
    · exact ⟨rfl, htext⟩
    · exact absurd htext.symm hminus
    · exact absurd htext hminus
    · exact ⟨rfl, List.tail_eq_of_cons_eq htext⟩
  have hbits := magnitudeBits_eq_of_magnitude hmagnitude
  have hzero : (x == 0) = (y == 0) := by
    rw [Bool.eq_iff_iff, beq_zero_iff, beq_zero_iff, hbits]
  by_cases hx0 : (x == 0) = true
  · exact beq_of_beq_zero hx0 (hzero ▸ hx0)
  · rw [← hzero, Bool.eq_false_of_not_eq_true hx0, Bool.not_false, Bool.and_true, Bool.and_true] at hsign
    rw [eq_of_bits hsign hbits, beq_number_self, hy]
    rfl

end

end RecordLang.Decimal
