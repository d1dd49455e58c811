/-!
The shortest decimal that reads back as a given binary number.

A binary floating point number stands for all reals that round to it: its *cell*, the reals between the
midpoints to its two neighbours. A decimal reads back as the number exactly when it lies in the cell.
Among the decimals in the cell the ones with the fewest digits are wanted, and of those the nearest to
the number; of two equally near ones the larger is taken.

* `Cell.ofBinary`: the cell of `m · 2 ^ q`.
* `Cell.contains`: whether `d · 10 ^ k` lies in a cell.
* `Cell.shortest`: the wanted decimal.
-/

namespace RecordLang.Decimal

/-! ### Cells -/

/-- The reals that round to `value / scale`: those between `low / scale` and `high / scale`, the ends
included if `closed`. -/
structure Cell where
  low : Nat
  value : Nat
  high : Nat
  scale : Nat
  closed : Bool

namespace Cell

/-- The cell of `m · 2 ^ q`. The neighbour below is at half the usual distance if `narrow`. The ends
belong to the cell if `m` is even, because a tie is rounded to the even neighbour. -/
def ofBinary (m : Nat) (q : Int) (narrow : Bool) : Cell :=
  let unit := Nat.pow 2 (q - 2).toNat
  { low := (4 * m - if narrow then 1 else 2) * unit
    value := 4 * m * unit
    high := (4 * m + 2) * unit
    scale := Nat.pow 2 (2 - q).toNat
    closed := m % 2 == 0 }

/-- Whether `d · 10 ^ k` lies in the cell. -/
def contains (c : Cell) (d : Nat) (k : Int) : Bool :=
  let point := d * c.scale * Nat.pow 10 k.toNat
  let low := c.low * Nat.pow 10 (-k).toNat
  let high := c.high * Nat.pow 10 (-k).toNat
  if c.closed then low ≤ point && point ≤ high else low < point && point < high

/-- The number of decimal digits of `n`. -/
def digitCount (n : Nat) : Nat :=
  (Nat.toDigits 10 n).length

/-- The exponent of the leading decimal digit of the cell's number. -/
def leading (c : Cell) : Int :=
  if c.scale ≤ c.value then
    (digitCount (c.value / c.scale) : Int) - 1
  else
    -(digitCount ((c.scale - 1) / c.value) : Int)

/-- The best decimal in the cell whose last digit has exponent `k`, if there is one: one of the two
neighbours of the number on that grid. -/
def onGrid (c : Cell) (k : Int) : Option (Nat × Int) :=
  let num := c.value * Nat.pow 10 (-k).toNat
  let den := c.scale * Nat.pow 10 k.toNat
  let below := num / den
  match c.contains below k, c.contains (below + 1) k with
  | true, false => some (below, k)
  | false, true => some (below + 1, k)
  | true, true => some (if 2 * (num % den) < den then below else below + 1, k)
  | false, false => none

/-- The decimal `d · 10 ^ k` in the cell with the fewest digits, as `(d, k)`. Seventeen digits always
suffice for a double. -/
def shortest (c : Cell) : Nat × Int :=
  let grids := (List.range 17).map fun n : Nat => c.leading - (n : Int)
  (grids.findSome? c.onGrid).getD (c.value / c.scale, 0)

end Cell

end RecordLang.Decimal
