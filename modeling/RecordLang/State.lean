import RecordLang.Config
import RecordLang.Console
import RecordLang.Registry
import RecordLang.Store

/-!
The state of evaluation, and the actions on it.

The state holds the store, the scope in which the program currently runs, the type registry, the calls
that are active and the console. A *host action* (`Run`) changes the state and gives a result or an
error. *Evaluation* (`Eval`) can also be cut short by a `return`, which travels like an error until a
call or the program's end takes its value.

* `enterFrame`, `leaveFrame`, `bindTop`, `assign`, `getName`: the frames in scope.
* `pushCall`, `popCall`: the active calls.
* `withFrame`, `withScope`: runs something in a frame of its own, or in another scope.
* `settle`: takes the value of a `return`.
-/

namespace RecordLang

/-- A call that is active: what was called, and where. -/
structure CallFrame where
  callee : String
  span : Option Span
deriving DecidableEq

/-- The state of evaluation. The newest call comes first in `calls`. -/
structure State where
  store : Store
  scope : Scope
  types : Registry := .empty
  calls : List CallFrame := []
  console : Console := {}

/-- An action of the host: a result or an error, and the new state in either case. -/
abbrev Run := EStateM Error State

/-- Why evaluation was cut short. -/
inductive Interrupt where
  | returned (v : Value)
  | failed (e : Error)

/-- Evaluation: a result, or what cut it short, and the new state in either case. -/
abbrev Eval := EStateM Interrupt State

instance : MonadLift (Except Error) Run where
  monadLift
    | .ok a => pure a
    | .error e => throw e

instance : MonadLift Run Eval where
  monadLift x := fun s =>
    match x s with
    | .ok a s => .ok a s
    | .error e s => .error (.failed e) s

/-- Takes the value of a `return`, as a call and the end of a program do. -/
def settle (x : Eval Value) : Run Value := fun s =>
  match x s with
  | .ok v s => .ok v s
  | .error (.returned v) s => .ok v s
  | .error (.failed e) s => .error e s

/-! ### States -/

namespace State

/-- A state whose only frame has the given bindings. -/
def ofGlobals (globals : Frame) : State :=
  let (base, store) := ({} : Store).newFrame globals
  { store, scope := ⟨[], base⟩ }

/-- What a name stands for. -/
def lookup (s : State) (name : String) : Option Value :=
  s.store.lookup s.scope name

/-- Whether a name is bound in the innermost frame. -/
def inTop (s : State) (name : String) : Bool :=
  (s.store.frame s.scope.top).contains name

/-- The bindings of the base frame of the current scope. -/
def globals (s : State) : Frame :=
  s.store.frame s.scope.base

/-- The state with a new innermost frame that has the given bindings. -/
def enterFrame (s : State) (bindings : Frame) : State :=
  let (frame, store) := s.store.newFrame bindings
  { s with store, scope := s.scope.push frame }

/-- The state without the innermost frame, unless that is the base frame. -/
def leaveFrame? (s : State) : Option State :=
  match s.scope.pop? with
  | some scope => some { s with scope }
  | none => none

/-- The state with a name bound in the innermost frame. -/
def bindTop (s : State) (name : String) (v : Value) : State :=
  { s with store := s.store.bind s.scope.top name v }

/-- The state with a line logged. -/
def log (s : State) (parts : List String) : State :=
  { s with console := s.console.log parts }

end State

/-! ### Names -/

/-- The value of a name. -/
def getName (name : String) (span : Option Span) : Run Value := do
  match (← get).lookup name with
  | some v => pure v
  | none => throw (.fault (.unresolvedIdentifier name) span)

/-- The value of a name; `message` is the error if it has none. -/
def getNameOr (name message : String) (span : Option Span) : Run Value := do
  match (← get).lookup name with
  | some v => pure v
  | none => throw (.fault (.unresolved message) span)

/-- Binds a name in the innermost frame and gives what it was bound to there. -/
def bindTop (name : String) (v : Value) : Run (Option Value) := do
  let s ← get
  let old := (s.store.frame s.scope.top).find? name
  modify (·.bindTop name v)
  pure old

/-- Binds a name that has a value already. The binding is made in the innermost frame, whichever frame
the name was found in. -/
def assign (name : String) (v : Value) (span : Option Span) : Run Unit := do
  if ((← get).lookup name).isSome then modify (·.bindTop name v)
  else throw (.fault (.unresolvedIdentifier name) span)

/-- Defines a name in the innermost frame. If it is defined there already, that is an error or worth a
warning, as the policy says. -/
def define (policy : Redefinition) (name : String) (v : Value) (span : Span) : Run Unit := do
  if (← get).inTop name then
    match policy with
    | .strict => throw (.fault (.redefinition name) (some span))
    | .permissive => modify (·.log ["warning:", s!"`{name}` is redefined"])
  modify (·.bindTop name v)

/-! ### Types -/

/-- The class or group that a path stands for. -/
def resolve (path : TypePath) : Run TypeEntry := do
  (← get).types.resolve path

/-- Lets a type name stand for a class or group, and gives what it stood for. -/
def register (name : String) (entry : TypeEntry) : Run (Option TypeEntry) := do
  let old := (← get).types.find? name
  modify fun s => { s with types := s.types.insert name entry }
  pure old

/-! ### New things -/

/-- Applies an operation that adds something to the store. -/
def make {α : Type} (add : Store → α × Store) : Run α :=
  modifyGet fun s =>
    let (a, store) := add s.store
    (a, { s with store })

/-- A new list. -/
def newList (items : List Value) : Run Value :=
  return .list (← make (·.newList items.toArray))

/-- A new record; of a repeated field the last value counts. -/
def newRecord (fields : List (String × Value)) : Run Value :=
  return .record (← make (·.newRecord (.ofList fields)))

/-- A new function with the given arms that sees the current scope. -/
def newFunction (name : String) (arms : List Arm) : Run Value := do
  let id ← make (·.newId)
  return .function { id, name, arms, scope := (← get).scope }

/-- A new lambda that sees the current scope. -/
def newLambda (params : List (String × Option TypeExpr)) (body : Block) : Run Value := do
  let id ← make (·.newId)
  return .lambda { id, params := .ofParams params, body, scope := (← get).scope }

/-! ### Calls -/

/-- Records a call, unless `limit` calls are active already. -/
def pushCall (call : CallFrame) (limit : Nat) : Run Unit := do
  if (← get).calls.length < limit then
    modify fun s => { s with calls := call :: s.calls }
  else throw (.fault (.recursionLimit limit) call.span)

/-- Removes the newest call. -/
def popCall : Run CallFrame := do
  match (← get).calls with
  | [] => throw (.defect .emptyCallStack)
  | call :: rest =>
      modify fun s => { s with calls := rest }
      pure call

/-- Removes all calls and gives them, newest first. -/
def clearCalls : Run (List CallFrame) :=
  modifyGet fun s => (s.calls, { s with calls := [] })

/-! ### Scopes -/

/-- Enters a new frame with the given bindings. -/
def enterFrame (bindings : Frame) : Run Unit :=
  modify (·.enterFrame bindings)

/-- Leaves the innermost frame. -/
def leaveFrame : Run Unit := fun s =>
  match s.leaveFrame? with
  | some s => .ok () s
  | none => .error (.defect .emptyScope) s

/-- Makes another scope the current one and gives the one it replaces. -/
def enterScope (scope : Scope) : Run Scope :=
  modifyGet fun s => (s.scope, { s with scope })

/-- Evaluates in a new frame with the given bindings, which is left however evaluation ends. -/
def withFrame {α : Type} (bindings : Frame) (body : Eval α) : Eval α := fun s =>
  match body (s.enterFrame bindings) with
  | .ok a s =>
      match leaveFrame s with
      | .ok () s => .ok a s
      | .error e s => .error (.failed e) s
  | .error i s =>
      match leaveFrame s with
      | .ok () s => .error i s
      | .error e s => .error (.failed e) s

/-- Evaluates in another scope; the current one comes back however evaluation ends. -/
def withScope {α : Type} (scope : Scope) (body : Eval α) : Eval α := fun s =>
  let saved := s.scope
  match body { s with scope } with
  | .ok a s => .ok a { s with scope := saved }
  | .error i s => .error i { s with scope := saved }

end RecordLang
