/-!
Source positions.

A span is a range of byte offsets in a program text. Ranges are taken as given, so one may end before
it starts; its length is then zero.

* `Span.length`: the number of bytes covered.
* `Span.extent`: the same range as an offset and a length.
-/

namespace RecordLang

/-- The bytes from `start` up to, not including, `stop`. -/
structure Span where
  start : Nat
  stop : Nat
deriving DecidableEq, Repr, Inhabited

namespace Span

/-- The number of bytes covered; zero if the range ends before it starts. -/
def length (s : Span) : Nat :=
  s.stop - s.start

/-- Whether no byte is covered. -/
def isEmpty (s : Span) : Bool :=
  s.length == 0

/-- The range as an offset and a length. -/
def extent (s : Span) : Nat × Nat :=
  (s.start, s.length)

/-- A span is empty exactly when it does not end after it starts. -/
theorem isEmpty_iff (s : Span) : s.isEmpty = true ↔ s.stop ≤ s.start := by
  simp only [isEmpty, length, beq_iff_eq]
  omega

end Span

end RecordLang
