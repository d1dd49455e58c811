import RecordLang.Proofs.Invocation.Coverage

/-!
What cuts evaluation short travels outwards.

A `return` or an error ends not only the job in which it comes up, but also the job that invoked it, and
so on outwards. A call takes the value of a `return`; an error passes through it. On the way out nothing
more is evaluated and no recorded call is removed. In particular a job invokes at most one job that
fails, since after that one it invokes nothing.

* `Job.Fails`: a job ends with an error.
* `Job.Invokes.calls_eq`: an invoked job starts with the active calls of the job that invokes it, and
  with the call which that one records.
* `Job.Invokes.outcome_eq_error`: a job that is not a call is cut short as the jobs are that it invokes.
* `Job.Invokes.outcome_eq_afterBody`: how a call ends, by the outcome of the body that it runs.
* `Job.Invokes.outcome_eq_failed`: a job fails as the jobs fail that it invokes, with the same calls
  active at the end.
* `Job.Invokes.eq_of_fails`: a job invokes at most one job that fails.
-/

namespace RecordLang

section

variable {config : Config}

/-- A job ends with an error. -/
def Job.Fails (config : Config) (p : Job) : Prop :=
  ∃ e t, p.outcome config = .error (.failed e) t

/-! ### Lists that are cut short -/

/-- The first expression that is cut short cuts short the evaluation of all. -/
lemma Job.evalAll_eq_error {before after : List Expr} {operand : Expr} {s t u : State}
    {vs : List Value} {i : Interrupt} (hbefore : Expr.evalAll (s.env config) before s = .ok vs t)
    (h : Job.outcome config ⟨.expr operand, t⟩ = .error i u) :
    Expr.evalAll (s.env config) (before ++ operand :: after) s = .error i u := by
  have hoperand : operand.eval (s.env config) t = .error i u := by
    rw [← State.env_eq (Expr.calls_of_evalAll hbefore)]
    exact h
  rw [Expr.evalAll_append, bind_apply, hbefore]
  simp only [Expr.evalAll, bind_apply, hoperand]

/-- A statement as a task is cut short as it is. -/
lemma eq_error_of_bind_pure {x : Eval Unit} {v : Value} {s u : State} {i : Interrupt}
    (h : (x >>= fun _ => pure v) s = .error i u) : x s = .error i u := by
  rw [bind_apply] at h
  cases hx : x s with
  | ok a t =>
      rw [hx] at h
      cases h
  | error i' t =>
      rw [hx] at h
      cases h
      rfl

/-- The first statement that is cut short cuts short all of them. -/
lemma Job.execAll_eq_error {before after : List Statement} {st : Statement} {s t u : State}
    {i : Interrupt} (hbefore : Statement.execAll (s.env config) before s = .ok () t)
    (h : Job.outcome config ⟨.statement st, t⟩ = .error i u) :
    Statement.execAll (s.env config) (before ++ st :: after) s = .error i u := by
  have hst : st.exec (s.env config) t = .error i u := by
    rw [← State.env_eq (Statement.calls_of_execAll hbefore)]
    exact eq_error_of_bind_pure h
  rw [Statement.execAll_append, bind_apply, hbefore]
  simp only [Statement.execAll, bind_apply, hst]

/-! ### Calls -/

/-- An invoked job starts with the active calls of the job that invokes it, and with the call which
that one records. -/
lemma Job.Invokes.calls_eq {p q : Job} (h : p.Invokes config q) :
    q.state.calls = (p.entered? config).toList ++ p.state.calls := by
  cases h with
  | operand hsplit hbefore => exact Expr.calls_of_evalAll hbefore
  | call hargs => exact Expr.calls_of_evalAll hargs
  | callNamed hargs hrecord =>
      have hcalls := Expr.calls_of_evalAll hargs
      cases hrecord
      exact hcalls
  | arm hsubject hfirst =>
      have hcalls := Expr.calls_of_evalAll hsubject
      exact hcalls
  | statementOperand hoperand => rfl
  | branch hcondition hbody =>
      have hcalls := Expr.calls_of_eval hcondition
      exact hcalls
  | statement hsplit hbefore => exact Statement.calls_of_execAll hbefore
  | body => rfl
  | tail hsts => exact Statement.calls_of_execAll hsts
  | function hroom hfirst =>
      rw [Job.entered?, if_pos hroom]
      rfl
  | lambda hroom hparams =>
      rw [Job.entered?, if_pos hroom]
      rfl

/-- A block in a frame of its own is cut short as the block is. -/
lemma withFrame_eq_error {b : Block} {bindings : Frame} {s t u : State} {i : Interrupt}
    (hcalls : t.calls = s.calls)
    (h : Job.outcome config ⟨.block b, t.enterFrame bindings⟩ = .error i u) :
    withFrame bindings (b.eval (s.env config)) t = .error i { u with scope := t.scope } := by
  have hbody : b.eval (s.env config) (t.enterFrame bindings) = .error i u := by
    rw [← State.env_eq hcalls]
    exact h
  rw [withFrame_apply (Block.eval_effect (s.env_effect config) b), hbody]

/-- The arm that is chosen is what a match runs. -/
lemma choose_eq_withFrame {v : Value} {arms : List Arm} {span : Span} {body : Block}
    {bindings : Bindings} (s : State) (block : Block → Eval Value)
    (h : Pattern.first? s.types s.store v arms = .ok (some (body, bindings))) :
    choose v (alternativesOf block arms) span s = withFrame (.ofList bindings) (block body) s := by
  rw [choose_alternativesOf_apply, h]

/-- Whether a task is a call, not the evaluation of a piece of text. -/
def Task.isCall : Task → Bool
  | .call .. => true
  | _ => false

/-- What cuts short a job cuts short the job that invoked it, unless that is a call. -/
theorem Job.Invokes.outcome_eq_error {p q : Job} (h : p.Invokes config q)
    (htext : p.task.isCall = false) {i : Interrupt} {u : State} (hq : q.outcome config = .error i u) :
    ∃ t, p.outcome config = .error i t ∧ t.calls = u.calls := by
  cases h with
  | @operand e operand before after s t vs hsplit hbefore =>
      refine ⟨u, ?_, rfl⟩
      show e.eval (s.env config) s = _
      rw [Expr.eval_eq_finish, bind_apply, hsplit, Job.evalAll_eq_error hbefore hq]
  | @call callee argument span s t f v hargs =>
      refine ⟨u, ?_, rfl⟩
      show Expr.eval (s.env config) (.call callee argument span) s = _
      rw [Expr.eval_eq_finish, bind_apply]
      simp only [Expr.operands, hargs]
      rw [← State.env_eq (Expr.calls_of_evalAll hargs)]
      exact hq
  | @callNamed callee arguments span s t u' f v vs hargs hrecord =>
      refine ⟨u, ?_, rfl⟩
      show Expr.eval (s.env config) (.callNamed callee arguments span) s = _
      rw [Expr.eval_eq_finish, bind_apply]
      simp only [Expr.operands, hargs, Expr.finish, bind_apply, lift_apply, hrecord]
      rw [← State.env_eq (Expr.calls_of_evalAll hargs)]
      cases hrecord
      exact hq
  | @arm subject arms span s t v body bindings hsubject hfirst =>
      refine ⟨{ u with scope := t.scope }, ?_, rfl⟩
      show Expr.eval (s.env config) (.select subject arms span) s = _
      rw [Expr.eval_eq_finish, bind_apply]
      simp only [Expr.operands, hsubject, Expr.finish]
      rw [choose_eq_withFrame t _ hfirst]
      exact withFrame_eq_error (Expr.calls_of_evalAll hsubject) hq
  | @statementOperand st e s hoperand =>
      refine ⟨u, ?_, rfl⟩
      have he : e.eval (s.env config) s = .error i u := hq
      show (st.exec (s.env config) >>= fun _ => pure Value.nil) s = _
      rw [Statement.exec_eq_finish, hoperand, bind_apply, bind_apply, Expr.evalOption, he]
  | @branch condition yes body no span s t b hcondition hbody =>
      refine ⟨{ u with scope := t.scope }, ?_, rfl⟩
      have hfinish : Statement.finish (s.env config).policy (Block.eval (s.env config))
          (.branch condition yes no span) (.boolean b) t
            = .error i { u with scope := t.scope } := by
        have hrun : Statement.finish (s.env config).policy (Block.eval (s.env config))
            (.branch condition yes no span) (.boolean b)
              = Functor.discard (withFrame .empty (Block.eval (s.env config) body)) := by
          cases b with
          | true =>
              cases hbody
              rfl
          | false =>
              obtain rfl : no = some body := hbody
              rfl
        rw [hrun, discard_apply, withFrame_eq_error (Expr.calls_of_eval hcondition) hq]
      show (Statement.exec (s.env config) (.branch condition yes no span)
        >>= fun _ => pure Value.nil) s = _
      rw [Statement.exec_eq_finish, bind_apply, bind_apply]
      simp only [Statement.operand?, Expr.evalOption, hcondition, hfinish]
  | @statement sts before after st s t hsplit hbefore =>
      refine ⟨u, ?_, rfl⟩
      show (Statement.execAll (s.env config) sts >>= fun _ => pure Value.nil) s = _
      rw [hsplit, bind_apply, Job.execAll_eq_error hbefore hq]
  | @body sts tail s =>
      refine ⟨u, ?_, rfl⟩
      have hsts : Statement.execAll (s.env config) sts s = .error i u :=
        eq_error_of_bind_pure hq
      show Block.eval (s.env config) (.mk sts tail) s = _
      rw [Block.eval, bind_apply, hsts]
  | @tail sts e s t hsts =>
      refine ⟨u, ?_, rfl⟩
      show Block.eval (s.env config) (.mk sts (some e)) s = _
      rw [Block.eval, bind_apply, hsts, ← State.env_eq (Statement.calls_of_execAll hsts)]
      exact hq
  | function => cases htext
  | lambda => cases htext

/-- How a call from the state `s` ends whose body ends in the given way: with the value of the body or
the value that it returned, in the scope and with the active calls of `s`; after a failure the calls stay
recorded. -/
def State.afterBody (s : State) :
    EStateM.Result Interrupt State Value → EStateM.Result Interrupt State Value
  | .ok v u => .ok v { u with scope := s.scope, calls := s.calls }
  | .error (.returned v) u => .ok v { u with scope := s.scope, calls := s.calls }
  | .error (.failed e) u => .error (.failed e) { u with scope := s.scope }

/-- A recorded call that runs a block in a frame of another scope. -/
lemma recordingCall_eq_afterBody {s : State} {x : Eval Value} {scope : Scope} {bindings : Frame}
    {body : Block} {callee : String} {span : Span} (heffect : HasEffect [] x)
    (hx : x (s.calling ⟨callee, some span⟩) =
      withScope scope (withFrame bindings (body.eval ((s.calling ⟨callee, some span⟩).env config)))
        (s.calling ⟨callee, some span⟩)) :
    (liftM (recordingCall callee span (settle x)) : Eval Value) s =
      s.afterBody (Job.outcome config ⟨.block body,
        State.enterFrame { s.calling ⟨callee, some span⟩ with scope } bindings⟩) := by
  have hbody := Block.eval_effect (State.env_effect config (s.calling ⟨callee, some span⟩)) body
  have hcalling : { s with calls := ⟨callee, some span⟩ :: s.calls }
      = s.calling ⟨callee, some span⟩ := rfl
  have houtcome : Job.outcome config ⟨.block body,
      State.enterFrame { s.calling ⟨callee, some span⟩ with scope } bindings⟩
        = body.eval ((s.calling ⟨callee, some span⟩).env config)
            (State.enterFrame { s.calling ⟨callee, some span⟩ with scope } bindings) := rfl
  rw [lift_apply, recordingCall_apply heffect.settle, hcalling, settle_apply, hx, withScope_apply,
    withFrame_apply hbody, houtcome]
  rcases body.eval ((s.calling ⟨callee, some span⟩).env config) _
    with ⟨v, u⟩ | ⟨v | e, u⟩ <;> rfl

/-- The outcome of the body decides how a call ends. -/
theorem Job.Invokes.outcome_eq_afterBody {p q : Job} (h : p.Invokes config q)
    (hcall : p.task.isCall = true) : p.outcome config = p.state.afterBody (q.outcome config) := by
  cases h with
  | @function f argument span s body bindings hroom hfirst =>
      show (liftM (callWithin config (s.room config) _ argument span) : Eval Value) s = _
      rw [State.room_eq_succ ⟨f.name, some span⟩ hroom, callWithin_function]
      refine recordingCall_eq_afterBody (s := s) (f.runWith_effect (config.env_effect _)) ?_
      have hchoose : choose argument
          (alternativesOf (Block.eval ((s.calling ⟨f.name, some span⟩).env config)) f.arms) span
          { s.calling ⟨f.name, some span⟩ with scope := f.scope }
            = withFrame (.ofList bindings)
                (Block.eval ((s.calling ⟨f.name, some span⟩).env config) body)
                { s.calling ⟨f.name, some span⟩ with scope := f.scope } :=
        choose_eq_withFrame _ _ hfirst
      rw [MatchFunction.runWith, withScope_apply, withScope_apply, ← hchoose]
      rfl
  | @lambda f argument span s params hroom hparams =>
      show (liftM (callWithin config (s.room config) _ argument span) : Eval Value) s = _
      rw [State.room_eq_succ ⟨Lambda.callee, some span⟩ hroom, callWithin_lambda]
      refine recordingCall_eq_afterBody (s := s) (f.runWith_effect (config.env_effect _)) ?_
      rw [Lambda.runWith, bind_apply, lift_apply, hparams]
      rfl
  | _ => cases hcall

/-- A job fails as the jobs fail that it invokes; the calls that were active then stay recorded. -/
theorem Job.Invokes.outcome_eq_failed {p q : Job} (h : p.Invokes config q) {e : Error} {u : State}
    (hq : q.outcome config = .error (.failed e) u) :
    ∃ t, p.outcome config = .error (.failed e) t ∧ t.calls = u.calls := by
  cases hcall : p.task.isCall with
  | false => exact h.outcome_eq_error hcall hq
  | true =>
      refine ⟨{ u with scope := p.state.scope }, ?_, rfl⟩
      rw [h.outcome_eq_afterBody hcall, hq]
      rfl

/-! ### At most one invoked job fails -/

/-- Two splits of a list agree if what stands before the split passes and passes no more with what
stands there. -/
lemma append_cons_unique {α : Type} (passes : List α → Prop) {before before' after after' : List α}
    {x x' : α} (h : before ++ x :: after = before' ++ x' :: after') (hbefore : passes before)
    (hbefore' : passes before') (hx : ∀ rest, ¬ passes (before ++ x :: rest))
    (hx' : ∀ rest, ¬ passes (before' ++ x' :: rest)) : before = before' ∧ x = x' := by
  obtain ⟨between, rfl, hsplit⟩ | ⟨between, rfl, hsplit⟩ := List.append_eq_append_iff.mp h
  · cases between with
    | nil =>
        cases hsplit
        exact ⟨(List.append_nil before).symm, rfl⟩
    | cons y between =>
        cases hsplit
        exact absurd hbefore' (hx between)
  · cases between with
    | nil =>
        cases hsplit
        exact ⟨List.append_nil before', rfl⟩
    | cons y between =>
        cases hsplit
        exact absurd hbefore (hx' between)

/-- Operands that have values cannot be continued to such by one that fails. -/
lemma Job.Fails.not_evalAll {before : List Expr} {operand : Expr} {s t : State} {vs : List Value}
    (h : Job.Fails config ⟨.expr operand, t⟩)
    (hbefore : Expr.evalAll (s.env config) before s = .ok vs t) (rest : List Expr) :
    ¬ ∃ ws u, Expr.evalAll (s.env config) (before ++ operand :: rest) s = .ok ws u := by
  rintro ⟨ws, u, hall⟩
  obtain ⟨e, t', he⟩ := h
  rw [Job.evalAll_eq_error hbefore he] at hall
  cases hall

/-- If an operand fails, not all operands have values. -/
lemma Job.Fails.not_operands {e operand : Expr} {before after : List Expr} {s t u : State}
    {vs ws : List Value} (h : Job.Fails config ⟨.expr operand, t⟩)
    (hsplit : e.operands = before ++ operand :: after)
    (hbefore : Expr.evalAll (s.env config) before s = .ok vs t) :
    Expr.evalAll (s.env config) e.operands s ≠ .ok ws u := by
  intro hall
  rw [hsplit] at hall
  exact h.not_evalAll hbefore after ⟨ws, u, hall⟩

/-- Statements that have run cannot be continued to such by one that fails. -/
lemma Job.Fails.not_execAll {before : List Statement} {st : Statement} {s t : State}
    (h : Job.Fails config ⟨.statement st, t⟩)
    (hbefore : Statement.execAll (s.env config) before s = .ok () t) (rest : List Statement) :
    ¬ ∃ u, Statement.execAll (s.env config) (before ++ st :: rest) s = .ok () u := by
  rintro ⟨u, hall⟩
  obtain ⟨e, t', he⟩ := h
  rw [Job.execAll_eq_error hbefore he] at hall
  cases hall

/-- A job invokes at most one job that fails: after that one it invokes nothing. -/
theorem Job.Invokes.eq_of_fails {p q q' : Job} (h : p.Invokes config q) (h' : p.Invokes config q')
    (hq : q.Fails config) (hq' : q'.Fails config) : q = q' := by
  cases h with
  | operand hsplit hbefore =>
      cases h' with
      | operand hsplit' hbefore' =>
          obtain ⟨rfl, rfl⟩ := append_cons_unique
            (fun es => ∃ vs t, Expr.evalAll (State.env _ config) es _ = .ok vs t)
            (hsplit.symm.trans hsplit') ⟨_, _, hbefore⟩ ⟨_, _, hbefore'⟩ (hq.not_evalAll hbefore)
            (hq'.not_evalAll hbefore')
          cases hbefore.symm.trans hbefore'
          rfl
      | call hargs => exact absurd hargs (hq.not_operands hsplit hbefore)
      | callNamed hargs _ => exact absurd hargs (hq.not_operands hsplit hbefore)
      | arm hsubject _ => exact absurd hsubject (hq.not_operands hsplit hbefore)
  | call hargs =>
      cases h' with
      | operand hsplit hbefore => exact absurd hargs (hq'.not_operands hsplit hbefore)
      | call hargs' =>
          cases hargs.symm.trans hargs'
          rfl
  | callNamed hargs hrecord =>
      cases h' with
      | operand hsplit hbefore => exact absurd hargs (hq'.not_operands hsplit hbefore)
      | callNamed hargs' hrecord' =>
          cases hargs.symm.trans hargs'
          cases hrecord.symm.trans hrecord'
          rfl
  | arm hsubject hfirst =>
      cases h' with
      | operand hsplit hbefore => exact absurd hsubject (hq'.not_operands hsplit hbefore)
      | arm hsubject' hfirst' =>
          cases hsubject.symm.trans hsubject'
          cases hfirst.symm.trans hfirst'
          rfl
  | statementOperand hoperand =>
      cases h' with
      | statementOperand hoperand' =>
          cases hoperand.symm.trans hoperand'
          rfl
      | branch hcondition _ =>
          cases hoperand
          obtain ⟨e, u, he⟩ := hq
          cases hcondition.symm.trans he
  | branch hcondition hbody =>
      cases h' with
      | statementOperand hoperand =>
          cases hoperand
          obtain ⟨e, u, he⟩ := hq'
          cases hcondition.symm.trans he
      | branch hcondition' hbody' =>
          cases hcondition.symm.trans hcondition'
          cases hbody.symm.trans hbody'
          rfl
  | statement hsplit hbefore =>
      cases h' with
      | statement hsplit' hbefore' =>
          obtain ⟨rfl, rfl⟩ := append_cons_unique
            (fun sts => ∃ t, Statement.execAll (State.env _ config) sts _ = .ok () t)
            (hsplit.symm.trans hsplit') ⟨_, hbefore⟩ ⟨_, hbefore'⟩ (hq.not_execAll hbefore)
            (hq'.not_execAll hbefore')
          cases hbefore.symm.trans hbefore'
          rfl
  | body =>
      cases h' with
      | body => rfl
      | tail hsts =>
          obtain ⟨e, u, he⟩ := hq
          cases hsts.symm.trans (eq_error_of_bind_pure he)
  | tail hsts =>
      cases h' with
      | body =>
          obtain ⟨e, u, he⟩ := hq'
          cases hsts.symm.trans (eq_error_of_bind_pure he)
      | tail hsts' =>
          cases hsts.symm.trans hsts'
          rfl
  | function _ hfirst =>
      cases h' with
      | function _ hfirst' =>
          cases hfirst.symm.trans hfirst'
          rfl
  | lambda _ hparams =>
      cases h' with
      | lambda _ hparams' =>
          cases hparams.symm.trans hparams'
          rfl

end

end RecordLang
