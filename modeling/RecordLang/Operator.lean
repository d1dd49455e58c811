import RecordLang.Value.Equality

/-!
Operators.

Arithmetic is that of doubles; `+` also joins strings. Strings are ordered by code points, numbers as
doubles, so a NaN is neither below, equal to nor above anything. The operands are checked from left to
right.

* `Operator.binary`, `Operator.unary`: the result of an operator.
* `Operator.factorial`: the factorial of a double.
-/

namespace RecordLang.Operator

/-- Applies `f` to two numbers. -/
def numeric (l r : Value) (span : Option Span) (f : Float → Float → Float) :
    Except Error Value := do
  let a ← l.expectNumber span
  let b ← r.expectNumber span
  .ok (.number (f a b))

/-- The order of two strings, by code points. -/
def compareStrings (s t : String) : Ordering :=
  if s < t then .lt else if s == t then .eq else .gt

/-- The order of two doubles; none if one of them is a NaN. -/
def compareNumbers (a b : Float) : Option Ordering :=
  if a < b then some .lt
  else if a == b then some .eq
  else if b < a then some .gt
  else none

/-- Whether the order of two strings or two numbers is one that `wanted` asks for. -/
def ordered (l r : Value) (span : Option Span) (wanted : Ordering → Bool) :
    Except Error Value :=
  match l, r with
  | .string s, .string t => .ok (.boolean (wanted (compareStrings s t)))
  | _, _ => do
      let a ← l.expectNumber span
      let b ← r.expectNumber span
      .ok (.boolean ((compareNumbers a b).any wanted))

/-- The sum of two numbers, or two strings joined. -/
def add (l r : Value) (span : Option Span) : Except Error Value :=
  match l with
  | .string s => do
      let t ← r.expectString span
      .ok (.string (s ++ t))
  | _ => numeric l r span (· + ·)

/-- The result of an operator on two values; `span` is the place of the operation. -/
def binary (st : Store) (op : BinaryOp) (l r : Value) (span : Span) : Except Error Value :=
  let place := some span
  match op with
  | .add => add l r place
  | .sub => numeric l r place (· - ·)
  | .mul => numeric l r place (· * ·)
  | .div => numeric l r place (· / ·)
  | .pow => numeric l r place Float.pow
  | .eq => .ok (.boolean (l.equal st r))
  | .ne => .ok (.boolean (!l.equal st r))
  | .lt => ordered l r place Ordering.isLT
  | .le => ordered l r place Ordering.isLE
  | .gt => ordered l r place Ordering.isGT
  | .ge => ordered l r place Ordering.isGE

/-- Whether a double is a whole number. -/
def isWhole (x : Float) : Bool :=
  x.isFinite && x.floor == x

/-- The product of the numbers from 2 to `x`, multiplied in that order. From 171 on it is infinite. -/
def factorial (x : Float) (span : Option Span) : Except Error Float :=
  if x < 0 || !isWhole x then .error (.fault (.invalidFactorial x) span)
  else
    let n := min x.toUInt64.toNat 171
    .ok ((List.range' 2 (n - 1)).foldl (fun product k => product * k.toFloat) 1)

/-- The result of an operator on one value; `span` is the place of the operation. -/
def unary (op : UnaryOp) (v : Value) (span : Span) : Except Error Value :=
  let place := some span
  match op with
  | .neg => (v.expectNumber place).map fun x => .number (-x)
  | .not => (v.expectBoolean place).map fun b => .boolean !b
  | .factorial => do
      let x ← v.expectNumber place
      let product ← factorial x place
      .ok (.number product)

end RecordLang.Operator
