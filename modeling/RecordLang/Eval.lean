import RecordLang.Native
import RecordLang.Operator
import RecordLang.Pattern

/-!
Evaluation of programs.

Operands are evaluated from left to right. A block runs in a frame of its own, which holds the bindings
of the pattern that led to it. How calls are made is left open here: evaluation is a recursion on the
program text, and whatever happens inside a call is handed to it as a function.

* `Expr.eval`, `Block.eval`, `Statement.exec`: evaluation of each kind of syntax.
-/

namespace RecordLang

/-- What evaluation needs from outside: the policy on redefinitions, and how a value is called. -/
structure Env where
  policy : Redefinition
  call : Value → Value → Span → Run Value

/-! ### Steps -/

/-- The field of a value, or the variant of a group. -/
def readField (st : Store) (v : Value) (name : String) (span : Span) : Except Error Value :=
  let missing (found : String) : Except Error Value :=
    .error (.fault (.unknownField name found) (some span))
  match v with
  | .record r =>
      match (st.record r).find? name with
      | some w => .ok w
      | none => missing v.typeName
  | .object c r =>
      match (st.record r).find? name with
      | some w => .ok w
      | none => missing c.displayName
  | .ofGroup g =>
      match g.variants.find? name with
      | some c => .ok (.ofClass c)
      | none => .error (.fault (.unknownVariant g.name name) (some span))
  | _ => missing v.typeName

/-- The item of a list at a position, which must be a whole number below its length. -/
def readIndex (st : Store) (target position : Value) (span : Span) : Except Error Value := do
  let r ← target.expectList (some span)
  let x ← position.expectNumber (some span)
  let items := st.list r
  let item := if 0 ≤ x && Operator.isWhole x then items[x.toUInt64.toNat]? else none
  match item with
  | some v => .ok v
  | none => .error (.fault (.indexOutOfBounds x items.size) (some span))

/-- Evaluates the first alternative whose pattern matches, with the bindings of the match. -/
def choose (v : Value) (alternatives : List (Expr × (Frame → Eval Value))) (span : Span) :
    Eval Value := do
  let s ← get
  match ← (Pattern.first? s.types s.store v alternatives : Except Error _) with
  | some (body, bindings) => body (.ofList bindings)
  | none => throw (.failed (.fault (.nonExhaustiveMatch (v.text s.store)) (some span)))

/-! ### Evaluation -/

mutual

/-- The value of an expression. -/
def Expr.eval (env : Env) : Expr → Eval Value
  | .identifier name span => getName name (some span)
  | .typeRef path => return (← resolve path).toValue
  | .literal l _ => return .ofLiteral l
  | .record fields _ => do newRecord (← Expr.evalFields env fields)
  | .list items _ => do newList (← Expr.evalAll env items)
  | .binary op left right span => do
      let l ← left.eval env
      let r ← right.eval env
      Operator.binary (← get).store op l r span
  | .unary op operand span => do
      let v ← operand.eval env
      Operator.unary op v span
  | .call callee argument span => do
      let f ← callee.eval env
      let v ← argument.eval env
      env.call f v span
  | .callNamed callee arguments span => do
      let f ← callee.eval env
      let v ← newRecord (← Expr.evalFields env arguments)
      env.call f v span
  | .field base name span => do
      let v ← base.eval env
      readField (← get).store v name span
  | .index base position span => do
      let target ← base.eval env
      let v ← position.eval env
      readIndex (← get).store target v span
  | .select subject arms span => do
      let v ← subject.eval env
      choose v (Block.evalArms env arms) span
  | .lambda params body _ => newLambda params body

/-- The values of expressions, from left to right. -/
def Expr.evalAll (env : Env) : List Expr → Eval (List Value)
  | [] => return []
  | e :: rest => do
      let v ← e.eval env
      return v :: (← Expr.evalAll env rest)

/-- The values of named expressions, from left to right. -/
def Expr.evalFields (env : Env) : List (String × Expr) → Eval (List (String × Value))
  | [] => return []
  | (name, e) :: rest => do
      let v ← e.eval env
      return (name, v) :: (← Expr.evalFields env rest)

/-- The value of an optional expression, nil if there is none. -/
def Expr.evalOption (env : Env) : Option Expr → Eval Value
  | none => return .nil
  | some e => e.eval env

/-- The arms of a match: each pattern with what to do in a frame of given bindings. -/
def Block.evalArms (env : Env) : List (Expr × Block) → List (Expr × (Frame → Eval Value))
  | [] => []
  | (pattern, body) :: rest =>
      (pattern, fun bindings => withFrame bindings (body.eval env)) :: Block.evalArms env rest

/-- The value of a block in the current frame. -/
def Block.eval (env : Env) : Block → Eval Value
  | .mk statements tail => do
      Statement.execAll env statements
      Expr.evalOption env tail

/-- Runs an optional block in a frame of its own. -/
def Block.execOption (env : Env) : Option Block → Eval Unit
  | none => return ()
  | some block => discard (withFrame .empty (block.eval env))

/-- Runs a statement. -/
def Statement.exec (env : Env) : Statement → Eval Unit
  | .const name value span => do
      let v ← value.eval env
      define env.policy name v span
  | .assign name value span => do
      let v ← value.eval env
      RecordLang.assign name v (some span)
  | .classDef decl => do
      let c ← make (·.newClass decl none)
      define env.policy decl.name (.ofClass c) decl.span
      discard (register decl.name (.ofClass c))
  | .groupDef decl => do
      let g ← make (·.newGroup decl)
      define env.policy decl.name (.ofGroup g) decl.span
      discard (register decl.name (.ofGroup g))
  | .function name arms span => do
      let f ← newFunction name arms
      define env.policy name f span
  | .leave value _ => do
      let v ← Expr.evalOption env value
      throw (.returned v)
  | .branch condition yes no _ => do
      let c ← condition.eval env
      if ← c.expectBoolean (some condition.span) then
        discard (withFrame .empty (yes.eval env))
      else
        Block.execOption env no
  | .log value _ => do
      let v ← value.eval env
      modify fun s => s.log [v.text s.store]
  | .logType path _ => do
      let entry ← resolve path
      modify (·.log [entry.text])
  | .expression value _ => discard (value.eval env)

/-- Runs statements in order. -/
def Statement.execAll (env : Env) : List Statement → Eval Unit
  | [] => return ()
  | statement :: rest => do
      statement.exec env
      Statement.execAll env rest

end

end RecordLang
