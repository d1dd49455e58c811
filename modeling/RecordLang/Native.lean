import RecordLang.State
import RecordLang.Value.Text

/-!
Native functions.

* `Native.prelude`: the bindings every program starts with.
* `Native.apply`: what a native function does.
* `Native.call`: a call of a native function.
-/

namespace RecordLang.Native

/-- All native functions. -/
def all : List Native :=
  [.length, .toString, .push, .floor]

/-- Every native function, bound to its name. -/
def prelude : Frame :=
  .ofList (all.map fun f => (f.name, .native f))

/-- The field of an argument record of `push`. -/
def pushField (fields : Table Value) (name : String) (span : Option Span) :
    Except Error Value :=
  match fields.find? name with
  | some v => .ok v
  | none => .error (.fault (.missingField "push" name) span)

/-- The result of a native function: the length of a list or a string, the text of a value, a list
with an item added at its end, or a number rounded down. -/
def apply (f : Native) (argument : Value) (span : Option Span) : Run Value := do
  match f with
  | .length =>
      match argument with
      | .list r => return .number ((← get).store.list r).size.toFloat
      | .string s => return .number s.length.toFloat
      | _ =>
          throw (.fault
            (.typeMismatch "`length` argument" "list | string" argument.typeName) span)
  | .toString => return .string (argument.text (← get).store)
  | .push =>
      let r ← argument.expectRecord span
      let fields := (← get).store.record r
      let target ← pushField fields "list" span
      let item ← pushField fields "item" span
      let list ← target.expectList span
      modify fun s => { s with store := s.store.append list item }
      return .list list
  | .floor =>
      let x ← argument.expectNumber span
      return .number x.floor

/-- Calls a native function; a fault without a place gets the place of the call. -/
def call (f : Native) (argument : Value) (span : Span) : Run Value :=
  (f.apply argument (some span)).adaptExcept (·.orSpan span)

/-- What `push` does with a record of the store. -/
theorem push_apply_record (r : RecordRef) (span : Option Span) (s : State) :
    push.apply (.record r) span s = (do
      let target ← pushField (s.store.record r) "list" span
      let item ← pushField (s.store.record r) "item" span
      let list ← target.expectList span
      modify fun s => { s with store := s.store.append list item }
      return .list list : Run Value) s :=
  rfl

/-- The faults of a native function have the place it is given, so its call adds none. -/
theorem call_eq_apply (f : Native) (argument : Value) (span : Span) :
    f.call argument span = f.apply argument (some span) := by
  funext s
  cases f with
  | length | floor => cases argument <;> rfl
  | toString => rfl
  | push =>
      cases argument with
      | record r =>
          rw [call, EStateM.adaptExcept, push_apply_record, pushField, pushField]
          cases (s.store.record r).find? "list" with
          | none => rfl
          | some target =>
              cases (s.store.record r).find? "item" with
              | none => rfl
              | some item => cases target <;> rfl
      | _ => rfl

end RecordLang.Native
