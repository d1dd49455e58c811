import RecordLang.Call

/-!
Interpreters: what a host does with programs.

An interpreter is a configuration together with a state that all programs run on it share. Running a
program never fails for the host: an error is written to the console, with a trace of the active calls,
and handed back in the report.

* `run`: runs a program.
* `evaluate`: the value of one expression.
-/

namespace RecordLang

/-- How a program ended: at its last statement, by a `return`, or with an error. -/
inductive Report where
  | finished
  | returned (v : Value)
  | failed (e : Error)

/-- Writes an error to the console, then the active calls from the innermost outwards, and forgets
these. -/
def State.reportFailure (s : State) (e : Error) : State :=
  let console := s.console.log ["error:", e.message]
  let console := s.calls.foldl (fun console call => console.log ["  at", call.callee]) console
  { s with calls := [], console := console.fail e }

/-- Runs a program. -/
def run (config : Config) (program : Program) (s : State) : Report × State :=
  match execute config program s with
  | .ok () s => (.finished, s)
  | .error (.returned v) s => (.returned v, s)
  | .error (.failed e) s => (.failed e, s.reportFailure e)

/-- The value of an expression, found by running a program that returns it. -/
def evaluate (config : Config) (e : Expr) (s : State) : Except Error Value × State :=
  match run config [.leave (some e) default] s with
  | (.returned v, s) => (.ok v, s)
  | (.failed e, s) => (.error e, s)
  | (.finished, s) => (.ok .nil, s)

/-- The state in which a program finds the native functions. -/
def State.initial : State :=
  .ofGlobals Native.prelude

/-- The state in which a program finds nothing. -/
def State.bare : State :=
  .ofGlobals .empty

end RecordLang
