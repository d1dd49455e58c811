/-!
Scopes: the frames that can be seen from a place of the program.

A frame is a set of bindings that lives in the store; a scope is a non-empty stack of references to
frames, from the innermost to the base frame. A function keeps the scope of its definition, so frames
are shared between scopes and a later binding in a shared frame is seen through all of them.

* `Scope.frames`: the frames from the innermost outwards.
* `Scope.push`, `Scope.pop?`: entering and leaving a frame. The base frame cannot be left.
-/

namespace RecordLang

/-- The place of a frame in the store. -/
structure FrameRef where
  index : Nat
deriving DecidableEq

/-- A stack of frames: `inner` from the innermost outwards, then `base`. -/
structure Scope where
  inner : List FrameRef
  base : FrameRef
deriving DecidableEq

namespace Scope

/-- The frames from the innermost outwards. -/
def frames (s : Scope) : List FrameRef :=
  s.inner ++ [s.base]

/-- The number of frames. -/
def depth (s : Scope) : Nat :=
  s.inner.length + 1

/-- The innermost frame. -/
def top (s : Scope) : FrameRef :=
  s.inner.headD s.base

/-- The scope with one more frame inside. -/
def push (s : Scope) (frame : FrameRef) : Scope :=
  { s with inner := frame :: s.inner }

/-- The scope without its innermost frame, unless that is the base frame. -/
def pop? (s : Scope) : Option Scope :=
  match s.inner with
  | [] => none
  | _ :: rest => some { s with inner := rest }

/-- Leaving a frame just entered gives the scope back. -/
@[simp] theorem pop?_push (s : Scope) (frame : FrameRef) : (s.push frame).pop? = some s := rfl

/-- Entering a frame makes it the first to be searched. -/
@[simp] theorem frames_push (s : Scope) (frame : FrameRef) :
    (s.push frame).frames = frame :: s.frames := rfl

/-- The depth is the number of frames. -/
theorem length_frames (s : Scope) : s.frames.length = s.depth := by
  simp [frames, depth]

/-- Only a scope of one frame cannot be left. -/
theorem pop?_eq_none_iff (s : Scope) : s.pop? = none ↔ s.depth = 1 := by
  obtain ⟨inner, base⟩ := s
  cases inner <;> simp [pop?, depth]

end Scope

end RecordLang
