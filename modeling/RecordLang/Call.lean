import RecordLang.Conformance
import RecordLang.Eval

/-!
Calls.

Calling a class makes an object of a record. Calling a function records the call, runs the body in the
scope of the function's definition and removes the record when the body has ended well; after an error
the records of the calls that led to it stay, for the trace. At most `maxCallDepth` calls are recorded
at once.

Evaluation ends because each call inside a call has one place less on the call stack: `callWithin` is a
recursion on the number of free places, and evaluation of a body a recursion on its text.

* `callWithin`: a call when a given number of places is free.
* `call`, `execute`: a call and a program, with the places that the state leaves.
-/

namespace RecordLang

/-- Records a call of `callee` while `body` runs; the record stays if `body` fails. -/
def recordingCall (callee : String) (span : Span) (body : Run Value) : Run Value := do
  modify fun s => { s with calls := ⟨callee, some span⟩ :: s.calls }
  let v ← body
  discard popCall
  return v

/-- The object that a class makes of a record. -/
def construct (c : Class) (argument : Value) (span : Span) : Run Value := do
  let r ← argument.expectRecord (some span)
  let s ← get
  c.instantiate s.types s.store r (some span)

namespace MatchFunction

/-- Runs the first arm of a function that matches the argument. -/
def apply (env : Env) (f : MatchFunction) (argument : Value) (span : Span) : Run Value :=
  settle (withScope f.scope (choose argument (Block.evalArms env f.arms) span))

end MatchFunction

namespace Lambda

/-- What a call of a lambda is recorded as. -/
def callee : String :=
  "<anonymous>"

/-- The parameters of a lambda with their values: the fields of the argument record, once they are
known to conform. -/
def bindParams (f : Lambda) (argument : Value) (span : Span) : Run Frame := do
  match argument with
  | .record r =>
      let s ← get
      let fields := s.store.record r
      f.params.check s.types s.store fields "function argument" (some span)
      return fields
  | _ =>
      throw (.fault
        (.typeMismatch "function argument" f.params.text argument.typeName) (some span))

/-- Runs the body of a lambda in a frame of its parameters. -/
def apply (env : Env) (f : Lambda) (argument : Value) (span : Span) : Run Value := do
  let params ← f.bindParams argument span
  settle (withScope f.scope (withFrame params (f.body.eval env)))

end Lambda

/-- Calls a value while `room` more calls may be recorded. -/
def callWithin (config : Config) : Nat → Value → Value → Span → Run Value
  | _, .ofClass c, argument, span => construct c argument span
  | 0, .function _, _, span => throw (.fault (.recursionLimit config.maxCallDepth) (some span))
  | 0, .lambda _, _, span => throw (.fault (.recursionLimit config.maxCallDepth) (some span))
  | 0, .native _, _, span => throw (.fault (.recursionLimit config.maxCallDepth) (some span))
  | room + 1, .function f, argument, span =>
      recordingCall f.name span
        (f.apply ⟨config.redefinition, callWithin config room⟩ argument span)
  | room + 1, .lambda f, argument, span =>
      recordingCall Lambda.callee span
        (f.apply ⟨config.redefinition, callWithin config room⟩ argument span)
  | _ + 1, .native f, argument, span =>
      recordingCall f.name span (f.call argument span)
  | _, v, _, span => throw (.fault (.notCallable v.typeName) (some span))

/-- How evaluation proceeds while `room` more calls may be recorded. -/
def Config.env (config : Config) (room : Nat) : Env :=
  ⟨config.redefinition, callWithin config room⟩

/-- The number of calls that may still be recorded. -/
def State.room (s : State) (config : Config) : Nat :=
  config.maxCallDepth - s.calls.length

/-- Calls a value. -/
def call (config : Config) (target argument : Value) (span : Span) : Run Value := fun s =>
  callWithin config (s.room config) target argument span s

/-- Runs statements. -/
def execute (config : Config) (program : Program) : Eval Unit := fun s =>
  Statement.execAll (config.env (s.room config)) program s

end RecordLang
