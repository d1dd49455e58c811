import RecordLang.Decimal.Shortest

/-!
Decimal text of a double.

Numbers are written with the fewest digits that read back, always positionally: no exponent, no point
in a whole number, no trailing zero behind the point.

* `Decimal.text`: the text of a double, a zero with its sign.
* `Decimal.plain`: the same, but both zeros are written `0`.
-/

namespace RecordLang.Decimal

/-- The mantissa bits of a double. -/
def mantissaBits (x : Float) : Nat :=
  x.toBits.toNat % Nat.pow 2 52

/-- The exponent bits of a double. -/
def exponentBits (x : Float) : Nat :=
  x.toBits.toNat / Nat.pow 2 52 % Nat.pow 2 11

/-- Whether the sign bit of a double is set. -/
def signBit (x : Float) : Bool :=
  x.toBits.toNat / Nat.pow 2 63 == 1

/-- The cell of the absolute value of a finite double. -/
def cell (x : Float) : Cell :=
  let m := mantissaBits x
  let e := exponentBits x
  if e = 0 then
    .ofBinary m (-1074) false
  else
    .ofBinary (Nat.pow 2 52 + m) ((e : Int) - 1075) (m == 0 && 1 < e)

/-- Writes `d · 10 ^ k` positionally. -/
def positional (d : Nat) (k : Int) : String :=
  let all := (Nat.toDigits 10 d).reverse
  let digits := (all.dropWhile (· == '0')).reverse
  let k := k + ((all.length - digits.length : Nat) : Int)
  let point := (digits.length : Int) + k
  let text :=
    if 0 ≤ k then
      digits ++ List.replicate k.toNat '0'
    else if 0 < point then
      digits.take point.toNat ++ '.' :: digits.drop point.toNat
    else
      '0' :: '.' :: (List.replicate (-point).toNat '0' ++ digits)
  String.ofList text

/-- The text of the absolute value of a double that is not a NaN. -/
def magnitude (x : Float) : String :=
  if x.isInf then "inf"
  else if x == 0 then "0"
  else
    let (d, k) := (cell x).shortest
    positional d k

/-- The text of a double, with `-` where the sign bit is set. -/
def text (x : Float) : String :=
  if x.isNaN then "NaN"
  else if signBit x then "-" ++ magnitude x
  else magnitude x

/-- The text of a double, in which a zero has no sign. -/
def plain (x : Float) : String :=
  if x == 0 then "0" else text x

end RecordLang.Decimal
