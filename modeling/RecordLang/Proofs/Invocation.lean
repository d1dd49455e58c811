import RecordLang.Proofs.Operands

/-!
Evaluations that invoke evaluations.

Evaluating an expression, a statement, a block or a call means evaluating others on the way: operands,
the statements of a block, the body of a function. This module says which ones, and from which states.
It also writes down the rules of evaluation once more with every such reference left open, so that
nothing about the rules themselves says that following them comes to an end.

* `Task`, `Job`: a piece of evaluation, and one together with the state in which it starts.
* `Task.eval`, `Job.outcome`: what evaluation answers.
* `run_eq_ofOutcome`: running a program as a job.
* `Task.step`: the rules of evaluation, given answers to all further tasks. A call is recorded only if
  the active calls, counted at that moment, are below the limit.
* `Job.Invokes`: one evaluation directly leads to another.
* `Job.Invokes.measure_lt`: the one invoked has fewer free places for calls, or as many and less text.
* `Job.wellFounded_invokes`: no job leads to an endless chain of jobs.
-/

namespace RecordLang

/-! ### Tasks -/

/-- A piece of evaluation. -/
inductive Task where
  | expr (e : Expr)
  | statement (st : Statement)
  | statements (sts : List Statement)
  | block (b : Block)
  | call (target argument : Value) (span : Span)

/-- How evaluation proceeds in a state: with the places for calls that the state leaves. -/
def State.env (s : State) (config : Config) : Env :=
  config.env (s.room config)

/-- What evaluation answers to a task; nil for a statement that ends well. -/
def Task.eval (config : Config) : Task → Eval Value
  | .expr e => fun s => e.eval (s.env config) s
  | .statement st => fun s => (st.exec (s.env config) >>= fun _ => pure Value.nil) s
  | .statements sts => fun s => (Statement.execAll (s.env config) sts >>= fun _ => pure Value.nil) s
  | .block b => fun s => b.eval (s.env config) s
  | .call target argument span => RecordLang.call config target argument span

/-- The size of the text that a task is about. A call is about none. -/
noncomputable def Task.size : Task → Nat
  | .expr e => sizeOf e
  | .statement st => sizeOf st
  | .statements sts => sizeOf sts
  | .block b => sizeOf b
  | .call .. => 0

/-- With as many active calls, evaluation proceeds alike. -/
lemma State.env_eq {config : Config} {s t : State} (h : t.calls = s.calls) :
    t.env config = s.env config := by
  rw [State.env, State.env, State.room, State.room, h]

lemma State.env_effect (config : Config) (s : State) : (s.env config).CallsHaveEffect :=
  config.env_effect (s.room config)

/-! ### The rules with open references -/

/-- What a call of a function runs; how blocks are evaluated is left open. -/
def MatchFunction.runWith (block : Block → Eval Value) (f : MatchFunction) (argument : Value)
    (span : Span) : Eval Value :=
  withScope f.scope (choose argument (alternativesOf block f.arms) span)

/-- What a call of a lambda runs; how blocks are evaluated is left open. -/
def Lambda.runWith (block : Block → Eval Value) (f : Lambda) (argument : Value) (span : Span) :
    Eval Value := do
  let params ← f.bindParams argument span
  withScope f.scope (withFrame params (block f.body))

/-- Records a call while `body` runs, if fewer calls are active than the settings allow. -/
def invoke (config : Config) (callee : String) (span : Span) (body : Eval Value) : Eval Value := do
  pushCall ⟨callee, some span⟩ config.maxCallDepth
  let v ← settle body
  discard popCall
  return v

/-- The rules of evaluation, one for each kind of task: what to do, given `answer` for all tasks that
come up on the way. -/
def Task.step (config : Config) (answer : Task → Eval Value) : Task → Eval Value
  | .expr e => do
      let vs ← e.operands.mapM fun operand => answer (.expr operand)
      e.finish (fun f v span => answer (.call f v span)) (fun body => answer (.block body)) vs
  | .statement st => do
      let v ← match st.operand? with
        | some e => answer (.expr e)
        | none => pure Value.nil
      st.finish config.redefinition (fun body => answer (.block body)) v
      return .nil
  | .statements sts => do
      sts.forM fun st => discard (answer (.statement st))
      return .nil
  | .block (.mk sts tail) => do
      discard (answer (.statements sts))
      match tail with
      | some e => answer (.expr e)
      | none => return .nil
  | .call (.ofClass c) argument span => construct c argument span
  | .call (.function f) argument span =>
      invoke config f.name span (f.runWith (fun body => answer (.block body)) argument span)
  | .call (.lambda f) argument span =>
      invoke config Lambda.callee span (f.runWith (fun body => answer (.block body)) argument span)
  | .call (.native f) argument span => invoke config f.name span (f.call argument span)
  | .call target _ span => throw (.failed (.fault (.notCallable target.typeName) (some span)))

/-! ### Calls as evaluation makes them -/

/-- A host action settles to itself. -/
lemma settle_lift (x : Run Value) : settle (liftM x) = x := by
  funext s
  rw [settle_apply, lift_apply]
  cases x s <;> rfl

/-- A host action ahead of evaluation returns nothing, so it need not be settled. -/
lemma settle_lift_bind {α : Type} (x : Run α) (f : α → Eval Value) :
    settle ((liftM x : Eval α) >>= f) = x >>= fun a => settle (f a) := by
  funext s
  rw [settle_apply, bind_apply, bind_apply, lift_apply]
  cases x s <;> rfl

section

variable (config : Config) (room : Nat) (argument : Value) (span : Span)

/-- A call of a function that finds a free place. -/
lemma callWithin_function (f : MatchFunction) :
    callWithin config (room + 1) (.function f) argument span =
      recordingCall f.name span
        (settle (f.runWith (Block.eval (config.env room)) argument span)) := by
  rw [MatchFunction.runWith, ← Block.evalArms_eq]
  rfl

/-- A call of a lambda that finds a free place. -/
lemma callWithin_lambda (f : Lambda) :
    callWithin config (room + 1) (.lambda f) argument span =
      recordingCall Lambda.callee span
        (settle (f.runWith (Block.eval (config.env room)) argument span)) := by
  rw [Lambda.runWith, settle_lift_bind]
  rfl

/-- A call of a native function that finds a free place. -/
lemma callWithin_native (f : Native) :
    callWithin config (room + 1) (.native f) argument span =
      recordingCall f.name span (settle (liftM (f.call argument span))) := by
  rw [settle_lift]
  rfl

variable {argument span}

lemma MatchFunction.runWith_effect {env : Env} (henv : env.CallsHaveEffect) (f : MatchFunction) :
    HasEffect [] (f.runWith (Block.eval env) argument span) := by
  rw [MatchFunction.runWith, ← Block.evalArms_eq]
  exact (hasEffect_choose (Block.evalArms_effect henv f.arms)).withScope f.scope

lemma Lambda.runWith_effect {env : Env} (henv : env.CallsHaveEffect) (f : Lambda) :
    HasEffect [] (f.runWith (Block.eval env) argument span) := by
  refine (hasEffect_bindParams f argument span).lift.bind fun params => ?_
  exact ((Block.eval_effect henv f.body).withFrame params).withScope f.scope

end

/-! ### Jobs -/

/-- A task together with the state in which it starts. -/
structure Job where
  task : Task
  state : State

/-- How a job ends. -/
def Job.outcome (config : Config) (p : Job) : EStateM.Result Interrupt State Value :=
  p.task.eval config p.state

/-- What a host gets of a program whose statements end in the given way. -/
def Report.ofOutcome : EStateM.Result Interrupt State Value → Report × State
  | .ok _ t => (.finished, t)
  | .error (.returned v) t => (.returned v, t)
  | .error (.failed e) t => (.failed e, t.reportFailure e)

/-- Running a program is running its statements as a job. -/
lemma run_eq_ofOutcome (config : Config) (program : Program) (s : State) :
    run config program s = Report.ofOutcome (Job.outcome config ⟨.statements program, s⟩) := by
  have hjob : Job.outcome config ⟨.statements program, s⟩
      = (execute config program >>= fun _ => pure Value.nil) s := rfl
  rw [hjob, bind_apply, run]
  rcases execute config program s with ⟨⟨⟩, t⟩ | ⟨v | e, t⟩ <;> rfl

/-- The state with one more active call. -/
def State.calling (s : State) (c : CallFrame) : State :=
  { s with calls := c :: s.calls }

/-- A recorded call takes one of the free places. -/
lemma State.room_eq_succ {config : Config} {s : State} (c : CallFrame)
    (h : s.calls.length < config.maxCallDepth) :
    s.room config = (s.calling c).room config + 1 := by
  simp only [State.room, State.calling, List.length_cons]
  omega

/-- When as many calls are recorded as may be, no place is free. -/
lemma State.room_eq_zero {config : Config} {s : State} (h : ¬ s.calls.length < config.maxCallDepth) :
    s.room config = 0 := by
  rw [State.room]
  omega

/-- The first job directly leads to the second: the second is evaluated, from its state, on the way to
the outcome of the first. -/
inductive Job.Invokes (config : Config) : Job → Job → Prop where
  /-- An operand, when those before it have been evaluated. -/
  | operand {e operand : Expr} {before after : List Expr} {s t : State} {vs : List Value} :
      e.operands = before ++ operand :: after →
      Expr.evalAll (s.env config) before s = .ok vs t →
      Invokes config ⟨.expr e, s⟩ ⟨.expr operand, t⟩
  | call {callee argument : Expr} {span : Span} {s t : State} {f v : Value} :
      Expr.evalAll (s.env config) [callee, argument] s = .ok [f, v] t →
      Invokes config ⟨.expr (.call callee argument span), s⟩ ⟨.call f v span, t⟩
  /-- A call whose named arguments have become a record. -/
  | callNamed {callee : Expr} {arguments : List (String × Expr)} {span : Span} {s t u : State}
      {f v : Value} {vs : List Value} :
      Expr.evalAll (s.env config) (callee :: arguments.map Prod.snd) s = .ok (f :: vs) t →
      newRecord ((arguments.map Prod.fst).zip vs) t = .ok v u →
      Invokes config ⟨.expr (.callNamed callee arguments span), s⟩ ⟨.call f v span, u⟩
  /-- The arm of a match that is chosen. -/
  | arm {subject : Expr} {arms : List Arm} {span : Span} {s t : State} {v : Value} {body : Block}
      {bindings : Bindings} :
      Expr.evalAll (s.env config) [subject] s = .ok [v] t →
      Pattern.first? t.types t.store v arms = .ok (some (body, bindings)) →
      Invokes config ⟨.expr (.select subject arms span), s⟩
        ⟨.block body, t.enterFrame (.ofList bindings)⟩
  | statementOperand {st : Statement} {e : Expr} {s : State} :
      st.operand? = some e → Invokes config ⟨.statement st, s⟩ ⟨.expr e, s⟩
  /-- The branch that the condition selects, if there is one. -/
  | branch {condition : Expr} {yes body : Block} {no : Option Block} {span : Span} {s t : State}
      {b : Bool} :
      condition.eval (s.env config) s = .ok (.boolean b) t →
      (if b then some yes else no) = some body →
      Invokes config ⟨.statement (.branch condition yes no span), s⟩
        ⟨.block body, t.enterFrame .empty⟩
  /-- A statement, when those before it have run. -/
  | statement {sts before after : List Statement} {st : Statement} {s t : State} :
      sts = before ++ st :: after →
      Statement.execAll (s.env config) before s = .ok () t →
      Invokes config ⟨.statements sts, s⟩ ⟨.statement st, t⟩
  | body {sts : List Statement} {tail : Option Expr} {s : State} :
      Invokes config ⟨.block (.mk sts tail), s⟩ ⟨.statements sts, s⟩
  | tail {sts : List Statement} {e : Expr} {s t : State} :
      Statement.execAll (s.env config) sts s = .ok () t →
      Invokes config ⟨.block (.mk sts (some e)), s⟩ ⟨.expr e, t⟩
  /-- The body of a function, once the call is recorded and an arm is chosen. -/
  | function {f : MatchFunction} {argument : Value} {span : Span} {s : State} {body : Block}
      {bindings : Bindings} :
      s.calls.length < config.maxCallDepth →
      Pattern.first? s.types s.store argument f.arms = .ok (some (body, bindings)) →
      Invokes config ⟨.call (.function f) argument span, s⟩
        ⟨.block body,
          State.enterFrame { s.calling ⟨f.name, some span⟩ with scope := f.scope } (.ofList bindings)⟩
  /-- The body of a lambda, once the call is recorded and the parameters are bound. -/
  | lambda {f : Lambda} {argument : Value} {span : Span} {s : State} {params : Frame} :
      s.calls.length < config.maxCallDepth →
      f.bindParams argument span (s.calling ⟨Lambda.callee, some span⟩) =
        .ok params (s.calling ⟨Lambda.callee, some span⟩) →
      Invokes config ⟨.call (.lambda f) argument span, s⟩
        ⟨.block f.body,
          State.enterFrame { s.calling ⟨Lambda.callee, some span⟩ with scope := f.scope } params⟩

/-! ### Invoked jobs are smaller -/

/-- The free places for calls, then the size of the text. -/
noncomputable def Job.measure (config : Config) (p : Job) : ℕ ×ₗ ℕ :=
  toLex (p.state.room config, p.task.size)

/-- As many free places and less text. -/
lemma Job.measure_lt_of_size {config : Config} {p q : Job} (hcalls : q.state.calls = p.state.calls)
    (hsize : q.task.size < p.task.size) : q.measure config < p.measure config := by
  have hroom : q.state.room config = p.state.room config := by
    rw [State.room, State.room, hcalls]
  rw [Job.measure, Job.measure, Prod.Lex.toLex_lt_toLex]
  exact Or.inr ⟨hroom, hsize⟩

/-- Fewer free places: one more call is active, and there was room for it. -/
lemma Job.measure_lt_of_room {config : Config} {p q : Job} {c : CallFrame}
    (hroom : p.state.calls.length < config.maxCallDepth)
    (hcalls : q.state.calls = c :: p.state.calls) : q.measure config < p.measure config := by
  rw [Job.measure, Job.measure, Prod.Lex.toLex_lt_toLex]
  refine Or.inl ?_
  rw [State.room, State.room, hcalls, List.length_cons]
  omega

/-- Expressions that were evaluated leave the active calls as they were. -/
lemma Expr.calls_of_evalAll {config : Config} {room : Nat} {es : List Expr} {s t : State}
    {vs : List Value} (h : Expr.evalAll (config.env room) es s = .ok vs t) : t.calls = s.calls := by
  have heffect := Expr.evalAll_effect (config.env_effect room) es s
  rw [h] at heffect
  exact heffect.calls_of_settled

/-- Statements that ran to their end leave the active calls as they were. -/
lemma Statement.calls_of_execAll {config : Config} {room : Nat} {sts : List Statement} {s t : State}
    (h : Statement.execAll (config.env room) sts s = .ok () t) : t.calls = s.calls := by
  have heffect := Statement.execAll_effect (config.env_effect room) sts s
  rw [h] at heffect
  exact heffect.calls_of_settled

/-- An expression that was evaluated leaves the active calls as they were. -/
lemma Expr.calls_of_eval {config : Config} {room : Nat} {e : Expr} {s t : State} {v : Value}
    (h : e.eval (config.env room) s = .ok v t) : t.calls = s.calls := by
  have heffect := Expr.eval_effect (config.env_effect room) e s
  rw [h] at heffect
  exact heffect.calls_of_settled

/-- The block of an arm is smaller than the arms. -/
lemma Block.sizeOf_lt_of_first? {types : Registry} {st : Store} {v : Value} {arms : List Arm}
    {body : Block} {bindings : Bindings}
    (h : Pattern.first? types st v arms = .ok (some (body, bindings))) : sizeOf body < sizeOf arms := by
  obtain ⟨pattern, hmem, -⟩ := Pattern.exists_of_first? h
  have hlt := List.sizeOf_lt_of_mem hmem
  simp only [Prod.mk.sizeOf_spec] at hlt
  omega

/-- **Invoked jobs are smaller.** Only a call that is recorded takes a free place; everything else
invokes what is about less text, from a state in which the calls made so far have been left again. -/
theorem Job.Invokes.measure_lt {config : Config} {p q : Job} (h : p.Invokes config q) :
    q.measure config < p.measure config := by
  cases h with
  | operand hsplit hbefore =>
      refine measure_lt_of_size (Expr.calls_of_evalAll hbefore) ?_
      exact Expr.sizeOf_lt_of_mem_operands (by rw [hsplit]; simp)
  | call hargs =>
      refine measure_lt_of_size (Expr.calls_of_evalAll hargs) ?_
      simp [Task.size]
  | callNamed hargs hrecord =>
      have hcalls := Expr.calls_of_evalAll hargs
      cases hrecord
      refine measure_lt_of_size hcalls ?_
      simp [Task.size]
  | arm hsubject hfirst =>
      have hcalls := Expr.calls_of_evalAll hsubject
      refine measure_lt_of_size hcalls ?_
      have hlt := Block.sizeOf_lt_of_first? hfirst
      simp only [Task.size, Expr.select.sizeOf_spec]
      omega
  | statementOperand hoperand =>
      exact measure_lt_of_size rfl (Statement.sizeOf_lt_of_operand? hoperand)
  | @branch condition yes body no span s t b hcondition hbody =>
      have hcalls := Expr.calls_of_eval hcondition
      refine measure_lt_of_size hcalls ?_
      have hlt : sizeOf body < 1 + sizeOf yes + sizeOf no := by
        obtain rfl | rfl := Block.eq_of_branch hbody
        · omega
        · simp only [Option.some.sizeOf_spec]
          omega
      simp only [Task.size, Statement.branch.sizeOf_spec]
      omega
  | statement hsplit hbefore =>
      refine measure_lt_of_size (Statement.calls_of_execAll hbefore) ?_
      exact List.sizeOf_lt_of_mem (by rw [hsplit]; simp)
  | body =>
      refine measure_lt_of_size rfl ?_
      simp only [Task.size, Block.mk.sizeOf_spec]
      omega
  | tail hsts =>
      refine measure_lt_of_size (Statement.calls_of_execAll hsts) ?_
      simp only [Task.size, Block.mk.sizeOf_spec, Option.some.sizeOf_spec]
      omega
  | function hroom _ => exact measure_lt_of_room hroom rfl
  | lambda hroom _ => exact measure_lt_of_room hroom rfl

/-- No job leads to an endless chain of jobs. -/
lemma Job.wellFounded_invokes (config : Config) :
    WellFounded fun q p : Job => p.Invokes config q := by
  have hmeasure : WellFounded fun q p : Job => q.measure config < p.measure config :=
    InvImage.wf (Job.measure config) wellFounded_lt
  exact Subrelation.wf (fun h => h.measure_lt) hmeasure

end RecordLang
