import RecordLang.Proofs.CallTrace
import RecordLang.Proofs.Regime
import RecordLang.Proofs.Validity.Runs

/-!
Evaluation keeps to lawful regimes.

One use of the rules keeps to a lawful regime if the answers to all further tasks do, so all of
evaluation does. Then every job that comes up on the way obeys the regime: it starts in a state that
obeys it, with text that is allowed in the scope of that state.

* `Regime.Lawful.keeps_step`: one use of the rules.
* `Regime.Lawful.kept`: evaluation keeps to a lawful regime.
* `Job.Invokes.obeys`: what a job invokes obeys the regime if the job does.
* `Job.ComesUp`: a job that comes up in the runs of a fresh interpreter.
* `Job.ComesUp.obeys`: jobs that come up obey a regime that allows the programs.
-/

namespace RecordLang

/-- The job starts in a state that obeys the regime, with a task that is allowed in its scope. -/
structure Job.Obeys (R : Regime) (p : Job) : Prop where
  state : p.state.Obeys R
  task : R.Allows p.state.scope p.task

namespace Regime

/-! ### One use of the rules -/

/-- The answers to all tasks that a regime allows keep to it. -/
def AnswersKeep (R : Regime) (answer : Task → Eval Value) : Prop :=
  ∀ scope task, R.Allows scope task → R.Keeps scope (answer task) R.value

namespace Lawful

section

variable {R : Regime} {scope : Scope} {answer : Task → Eval Value}

/-- What an expression does with allowed values of its operands. -/
lemma keeps_finish (hR : R.Lawful) (hanswer : R.AnswersKeep answer) {e : Expr}
    (he : R.text scope (.expr e)) {vs : List Value} (hvs : ∀ v ∈ vs, R.value v) :
    R.Keeps scope
      (e.finish (fun f v span => answer (.call f v span)) (fun body => answer (.block body)) vs)
      R.value := by
  have hplain := hR.value_of_not_capturesScope
  have hblock : ∀ body, Task.Inner (.expr e) body → ∀ frame,
      R.Keeps (scope.push frame) (answer (.block body)) R.value :=
    fun body h frame => hanswer _ (.block body) (hR.inner scope _ body frame he h)
  have hcall : ∀ f v span, R.value f → R.value v → R.Keeps scope (answer (.call f v span)) R.value :=
    fun f v span hf hv => hanswer scope (.call f v span) ⟨hf, hv, _, he⟩
  have hzip : ∀ names : List String, ∀ vs' ⊆ vs, ∀ field ∈ names.zip vs', R.value field.2 :=
    fun names vs' hsub field hfield => hvs _ (hsub (List.of_mem_zip hfield).2)
  unfold Expr.finish
  -- one case for each equation of the definition, in its order
  split
  · exact (keeps_getName _ _).lift
  · exact (keeps_resolve _).lift.bind fun entry _ => keeps_pure (hR.value_toValue entry)
  · next l _ => cases l <;> exact keeps_pure (hplain _ rfl)
  · exact ((keeps_newRecord (hzip _ _ (List.Subset.refl _))).mono hplain).lift
  · exact ((keeps_newList hvs).mono hplain).lift
  · refine keeps_get fun s hs hscope => ?_
    exact (keeps_except fun w hw => hR.value_of_isAtom (isAtom_of_binary hw)).lift s hs hscope
  · exact (keeps_except fun w hw => hR.value_of_isAtom (isAtom_of_unary hw)).lift
  · exact hcall _ _ _ (hvs _ (by simp)) (hvs _ (by simp))
  · refine ((keeps_newRecord ?_).mono hplain).lift.bind fun v hv => hcall _ v _ (hvs _ (by simp)) hv
    exact hzip _ _ (List.subset_cons_self _ _)
  · refine keeps_get fun s hs hscope => ?_
    refine (keeps_except fun w hw => ?_).lift s hs hscope
    obtain hheld | ⟨g, c, -, -, rfl⟩ := holds_of_readField hw
    · exact hs.held w hheld
    · exact hplain _ rfl
  · refine keeps_get fun s hs hscope => ?_
    exact (keeps_except fun w hw => hs.held w (holds_of_readIndex hw)).lift s hs hscope
  · exact keeps_choose (hvs _ (by simp)) (fun arm hmem => hblock arm.2 (.arm hmem)) _
  · exact (hR.keeps_newLambda he).lift
  · exact keeps_pure (hplain _ rfl)

/-- What a statement does with an allowed value of its operand. -/
lemma keeps_statementFinish (hR : R.Lawful) (hanswer : R.AnswersKeep answer) {st : Statement}
    (hst : R.text scope (.statement st)) {v : Value} (hv : R.value v) (policy : Redefinition) :
    R.Keeps scope (st.finish policy (fun body => answer (.block body)) v) fun _ => True := by
  cases st with
  | const name value span => exact (keeps_define policy name hv span).lift
  | assign name value span => exact (keeps_assign name hv _).lift
  | classDef decl =>
      exact keeps_defineType TypeEntry.ofClass (fun c => hR.value_toValue _)
        (fun st => ⟨st.nextId + 1, Nat.le_succ _, rfl⟩) hR.types_mono
        (fun st types => hR.classTypes st types decl) policy decl.span
  | groupDef decl =>
      refine keeps_defineType TypeEntry.ofGroup (fun g => hR.value_toValue _)
        (fun st => ⟨_, ?_, newGroup_snd decl st⟩) hR.types_mono
        (fun st types => hR.groupTypes st types decl) policy decl.span
      omega
  | function name arms span =>
      refine (hR.keeps_newFunction hst).lift.bind fun f hf => ?_
      exact (keeps_define policy name hf span).lift
  | leave value span =>
      refine fun s hs hscope => ⟨hs, hscope, ?_⟩
      rintro w ⟨⟩
      exact hv
  | branch condition yes no span =>
      refine (keeps_except fun b _ => trivial).lift.bind fun b _ => ?_
      cases hbody : (if b then some yes else no) with
      | none => exact keeps_pure trivial
      | some body =>
          have hinner : Task.Inner (.statement (.branch condition yes no span)) body :=
            .branch (Block.eq_of_branch hbody)
          have hblock : ∀ frame, R.Keeps (scope.push frame) (answer (.block body)) R.value :=
            fun frame => hanswer _ (.block body) (hR.inner scope _ body frame hst hinner)
          exact (Keeps.withFrame hblock fun x w hw => absurd hw (by simp)).discard
  | log value span => exact keeps_modify fun s hs => ⟨hs.of_eq rfl rfl, rfl⟩
  | logType path span =>
      refine (keeps_resolve path).lift.bind fun entry _ => ?_
      exact keeps_modify fun s hs => ⟨hs.of_eq rfl rfl, rfl⟩
  | expression value span => exact keeps_pure trivial

/-- A call: what a function runs is allowed in the scope that it has captured. -/
lemma keeps_call (hR : R.Lawful) (hanswer : R.AnswersKeep answer) {target argument : Value}
    (htarget : R.value target) (hargument : R.value argument) (config : Config) (span : Span) :
    R.Keeps scope (Task.step config answer (.call target argument span)) R.value := by
  cases target with
  | function f =>
      refine Keeps.invoke (Keeps.withScope ?_) config f.name span
      exact keeps_choose hargument (fun arm hmem frame =>
        hanswer _ (.block arm.2) (hR.functionBody f frame htarget arm hmem)) span
  | lambda f =>
      refine Keeps.invoke ?_ config Lambda.callee span
      refine (keeps_bindParams f argument span).lift.bind fun params hparams => ?_
      refine Keeps.withScope (Keeps.withFrame (fun frame => ?_) hparams)
      exact hanswer _ (.block f.body) (hR.lambdaBody f frame htarget)
  | native f => exact (hR.keeps_native f argument span).lift.invoke config f.name span
  | ofClass c => exact (hR.keeps_construct c argument span).lift
  | _ => exact (keeps_throw _).lift

/-- One use of the rules. -/
lemma keeps_step (hR : R.Lawful) (hanswer : R.AnswersKeep answer) (config : Config) {task : Task}
    (htask : R.Allows scope task) : R.Keeps scope (task.step config answer) R.value := by
  have hnil : R.value .nil := hR.value_of_not_capturesScope _ rfl
  cases task with
  | expr e =>
      have hoperands : ∀ operand ∈ e.operands, R.Keeps scope (answer (.expr operand)) R.value :=
        fun operand hmem => hanswer scope (.expr operand) (hR.part scope _ _ htask (.operand hmem))
      exact (keeps_mapM hoperands).bind fun vs hvs => hR.keeps_finish hanswer htask hvs
  | statement st =>
      have hoperand : R.Keeps scope
          (st.operand?.elim (pure Value.nil) fun e => answer (.expr e)) R.value := by
        cases h : st.operand? with
        | some e => exact hanswer scope (.expr e) (hR.part scope _ _ htask (.statementOperand h))
        | none => exact keeps_pure hnil
      rw [Task.step_statement]
      refine hoperand.bind fun v hv => ?_
      exact (hR.keeps_statementFinish hanswer htask hv _).bind fun _ _ => keeps_pure hnil
  | statements sts =>
      have hall := keeps_forM fun st (hmem : st ∈ sts) =>
        (hanswer scope (.statement st) (hR.part scope _ _ htask (.statement hmem))).discard
      exact hall.bind fun _ _ => keeps_pure hnil
  | block b =>
      obtain ⟨sts, tail⟩ := b
      refine (hanswer scope (.statements sts) (hR.part scope _ _ htask .body)).discard.bind
        fun _ _ => ?_
      cases tail with
      | some e => exact hanswer scope (.expr e) (hR.part scope _ _ htask .tail)
      | none => exact keeps_pure hnil
  | call target argument span =>
      obtain ⟨htarget, hargument, -⟩ := htask
      exact hR.keeps_call hanswer htarget hargument config span

/-! ### Evaluation -/

/-- **Evaluation keeps to lawful regimes.** -/
theorem kept (hR : R.Lawful) (config : Config) {p : Job} (hp : p.Obeys R) :
    R.Kept p.state.scope R.value (p.outcome config) := by
  refine Job.outcome_of_step config
    (P := fun p outcome => p.Obeys R → R.Kept p.state.scope R.value outcome)
    (fun _ => throw (.failed (.defect .emptyScope))) ?_ ?_ p hp
  · intro q hq
    exact (keeps_throw _).lift q.state hq.state rfl
  · intro answer hanswer q hq
    have hkeep : R.AnswersKeep answer := by
      rintro scope task htask s hs rfl
      exact hanswer ⟨task, s⟩ ⟨hs, htask⟩
    exact hR.keeps_step hkeep config hq.task q.state hq.state rfl

/-- The state that evaluation leaves obeys the regime, however it ends. -/
lemma obeys_finalState (hR : R.Lawful) (config : Config) {p : Job} (hp : p.Obeys R) :
    (finalState (p.outcome config)).Obeys R := by
  have hkept := hR.kept config hp
  cases houtcome : p.outcome config with
  | ok v t | error i t =>
      rw [houtcome] at hkept
      exact hkept.1

end

end Lawful

end Regime

/-! ### Jobs on the way -/

section

variable {R : Regime} {config : Config}

/-- Operands that are evaluated one after the other. -/
lemma Regime.Lawful.kept_evalAll (hR : R.Lawful) {s₀ s : State} {es : List Expr} (hs : s.Obeys R)
    (hes : ∀ e ∈ es, R.text s.scope (.expr e)) (hcalls : s.calls = s₀.calls) :
    R.Kept s.scope (fun vs => ∀ v ∈ vs, R.value v) (Expr.evalAll (s₀.env config) es s) := by
  induction es generalizing s with
  | nil => exact ⟨hs, rfl, by simp⟩
  | cons e rest ih =>
      obtain ⟨he, hrest⟩ := List.forall_mem_cons.mp hes
      have hfirst : R.Kept s.scope R.value (e.eval (s₀.env config) s) := by
        have hjob : Job.Obeys R ⟨.expr e, s⟩ := ⟨hs, he⟩
        rw [← State.env_eq hcalls]
        exact hR.kept config hjob
      rw [Expr.evalAll]
      refine hfirst.bind fun v t hv ht hscope hvalue => ?_
      have hothers := ih ht (by rwa [hscope]) ((Expr.calls_of_eval hv).trans hcalls)
      rw [hscope] at hothers
      refine hothers.bind fun vs u _ hu huscope hvalues => ?_
      exact ⟨hu, huscope, List.forall_mem_cons.mpr ⟨hvalue, hvalues⟩⟩

/-- Statements that run one after the other. -/
lemma Regime.Lawful.kept_execAll (hR : R.Lawful) {s₀ s : State} {sts : List Statement}
    (hs : s.Obeys R) (hsts : ∀ st ∈ sts, R.text s.scope (.statement st))
    (hcalls : s.calls = s₀.calls) :
    R.Kept s.scope (fun _ => True) (Statement.execAll (s₀.env config) sts s) := by
  induction sts generalizing s with
  | nil => exact ⟨hs, rfl, trivial⟩
  | cons st rest ih =>
      obtain ⟨hst, hrest⟩ := List.forall_mem_cons.mp hsts
      have hfirst : R.Kept s.scope (fun _ => True) (st.exec (s₀.env config) s) := by
        have hjob : Job.Obeys R ⟨.statement st, s⟩ := ⟨hs, hst⟩
        rw [← State.env_eq hcalls, ← discard_bind_pure (st.exec (s.env config)) .nil]
        exact (hR.kept config hjob).discard
      rw [Statement.execAll]
      refine hfirst.bind fun _ t hst' ht hscope _ => ?_
      have heffect := Statement.exec_effect (s₀.env_effect config) st s
      rw [hst'] at heffect
      have hothers := ih ht (by rwa [hscope]) (heffect.calls_of_settled.trans hcalls)
      rwa [hscope] at hothers

/-- The state and the values after some operands of an expression. -/
lemma Job.Obeys.operands (hR : R.Lawful) {e : Expr} {s t : State} (hp : Job.Obeys R ⟨.expr e, s⟩)
    {es : List Expr} {vs : List Value} (hes : es ⊆ e.operands)
    (h : Expr.evalAll (s.env config) es s = .ok vs t) :
    t.Obeys R ∧ t.scope = s.scope ∧ ∀ v ∈ vs, R.value v := by
  have hkept : R.Kept s.scope (fun vs => ∀ v ∈ vs, R.value v) (Expr.evalAll (s.env config) es s) :=
    hR.kept_evalAll hp.state (fun e' hmem => hR.part _ _ _ hp.task (.operand (hes hmem))) rfl
  rw [h] at hkept
  exact hkept

/-- The state after some of the statements. -/
lemma Job.Obeys.statements (hR : R.Lawful) {sts before : List Statement} {s t : State}
    (hp : Job.Obeys R ⟨.statements sts, s⟩) (hbefore : before ⊆ sts)
    (h : Statement.execAll (s.env config) before s = .ok () t) :
    t.Obeys R ∧ t.scope = s.scope := by
  have hkept : R.Kept s.scope (fun _ => True) (Statement.execAll (s.env config) before s) :=
    hR.kept_execAll hp.state (fun st hmem => hR.part _ _ _ hp.task (.statement (hbefore hmem))) rfl
  rw [h] at hkept
  exact ⟨hkept.1, hkept.2.1⟩

/-- The values that the chosen arm binds are allowed. -/
lemma State.Obeys.enterArm {s : State} (hs : s.Obeys R) {v : Value} (hv : R.value v)
    {arms : List Arm} {body : Block} {bindings : Bindings}
    (h : Pattern.first? s.types s.store v arms = .ok (some (body, bindings))) :
    (s.enterFrame (.ofList bindings)).Obeys R := by
  obtain ⟨pattern, -, hmatch⟩ := Pattern.exists_of_first? h
  exact hs.enterFrame (Regime.value_of_match? hs hv hmatch)

/-- What a job invokes obeys the regime if the job does: parts of its text in the same scope, blocks in
one more frame, and bodies in the scope that a function has captured. -/
theorem Job.Invokes.obeys (hR : R.Lawful) {p q : Job} (h : p.Invokes config q) (hp : p.Obeys R) :
    q.Obeys R := by
  cases h with
  | @operand e operand before after s t vs hsplit hbefore =>
      have hsub : before ⊆ e.operands := by
        rw [hsplit]
        exact List.subset_append_left _ _
      have hmem : operand ∈ e.operands := by
        rw [hsplit]
        simp
      obtain ⟨ht, hscope, -⟩ := hp.operands hR hsub hbefore
      have htext := hR.part _ _ _ hp.task (.operand hmem)
      rw [← hscope] at htext
      exact ⟨ht, htext⟩
  | @call callee argument span s t f v hargs =>
      obtain ⟨ht, hscope, hvs⟩ := hp.operands hR (List.Subset.refl _) hargs
      refine ⟨ht, hvs f (by simp), hvs v (by simp), .expr (.call callee argument span), ?_⟩
      rw [hscope]
      exact hp.task
  | @callNamed callee arguments span s t u f v vs hargs hrecord =>
      obtain ⟨ht, hscope, hvs⟩ := hp.operands hR (List.Subset.refl _) hargs
      have hfields : ∀ field ∈ (arguments.map Prod.fst).zip vs, R.value field.2 :=
        fun field hfield => hvs _ (List.mem_cons_of_mem f (List.of_mem_zip hfield).2)
      have hkept := Regime.keeps_newRecord hfields t ht hscope
      rw [hrecord] at hkept
      obtain ⟨hu, huscope, hv⟩ := hkept
      refine ⟨hu, hvs f (by simp), hR.value_of_not_capturesScope v hv,
        .expr (.callNamed callee arguments span), ?_⟩
      rw [huscope]
      exact hp.task
  | @arm subject arms span s t v body bindings hsubject hfirst =>
      obtain ⟨ht, hscope, hvs⟩ := hp.operands hR (List.Subset.refl _) hsubject
      obtain ⟨pattern, hmem, -⟩ := Pattern.exists_of_first? hfirst
      refine ⟨ht.enterArm (hvs v (by simp)) hfirst, ?_⟩
      have htext := hR.inner _ _ body (t.store.newFrame (.ofList bindings)).1 hp.task (.arm hmem)
      rw [← hscope] at htext
      exact htext
  | statementOperand hoperand =>
      exact ⟨hp.state, hR.part _ _ _ hp.task (.statementOperand hoperand)⟩
  | @branch condition yes body no span s t b hcondition hbody =>
      have hpart : Job.Obeys R ⟨.expr condition, s⟩ :=
        ⟨hp.state, hR.part _ _ _ hp.task (.statementOperand rfl)⟩
      have hkept : R.Kept s.scope R.value (condition.eval (s.env config) s) := hR.kept config hpart
      rw [hcondition] at hkept
      obtain ⟨ht, hscope, -⟩ := hkept
      have htext := hR.inner _ _ body (t.store.newFrame .empty).1 hp.task
        (.branch (Block.eq_of_branch hbody))
      rw [← hscope] at htext
      exact ⟨ht.enterEmpty, htext⟩
  | @statement sts before after st s t hsplit hbefore =>
      have hsub : before ⊆ sts := by
        rw [hsplit]
        exact List.subset_append_left _ _
      have hmem : st ∈ sts := by
        rw [hsplit]
        simp
      obtain ⟨ht, hscope⟩ := hp.statements hR hsub hbefore
      have htext := hR.part _ _ _ hp.task (.statement hmem)
      rw [← hscope] at htext
      exact ⟨ht, htext⟩
  | body => exact ⟨hp.state, hR.part _ _ _ hp.task .body⟩
  | @tail sts e s t hsts =>
      have hbody : Job.Obeys R ⟨.statements sts, s⟩ := ⟨hp.state, hR.part _ _ _ hp.task .body⟩
      obtain ⟨ht, hscope⟩ := hbody.statements hR (List.Subset.refl _) hsts
      have htext := hR.part _ _ _ hp.task .tail
      rw [← hscope] at htext
      exact ⟨ht, htext⟩
  | @function f argument span s body bindings hroom hfirst =>
      obtain ⟨hs, htarget, hargument, -⟩ := hp
      obtain ⟨pattern, hmem, -⟩ := Pattern.exists_of_first? hfirst
      have hinner : State.Obeys R { s.calling ⟨f.name, some span⟩ with scope := f.scope } :=
        hs.of_eq rfl rfl
      exact ⟨hinner.enterArm hargument hfirst, hR.functionBody f _ htarget _ hmem⟩
  | @lambda f argument span s params hroom hparams =>
      obtain ⟨hs, htarget, -, -⟩ := hp
      have hcalling : (s.calling ⟨Lambda.callee, some span⟩).Obeys R := hs.of_eq rfl rfl
      have hkept := Regime.keeps_bindParams f argument span _ hcalling rfl
      rw [hparams] at hkept
      have hinner : State.Obeys R { s.calling ⟨Lambda.callee, some span⟩ with scope := f.scope } :=
        hs.of_eq rfl rfl
      exact ⟨hinner.enterFrame hkept.2.2, hR.lambdaBody f _ htarget⟩

/-- All that a job leads to obeys the regime if the job does. -/
lemma Job.LeadsTo.obeys (hR : R.Lawful) {p q : Job} (h : p.LeadsTo config q) (hp : p.Obeys R) :
    q.Obeys R := by
  induction h with
  | refl => exact hp
  | tail _ hinvokes ih => exact hinvokes.obeys hR ih

end

/-! ### Runs -/

section

variable {R : Regime}

/-- A program that is allowed keeps to the regime, and what it returns is allowed. -/
lemma Regime.Lawful.obeys_run (hR : R.Lawful) (config : Config) {program : Program} {s : State}
    (hp : Job.Obeys R ⟨.statements program, s⟩) :
    (run config program s).2.Obeys R ∧ (run config program s).2.scope = s.scope ∧
      ∀ v, (run config program s).1 = .returned v → R.value v := by
  have hkept : R.Kept s.scope R.value (Job.outcome config ⟨.statements program, s⟩) :=
    hR.kept config hp
  rw [run_eq_ofOutcome]
  rcases h : Job.outcome config ⟨.statements program, s⟩ with ⟨v, t⟩ | ⟨v | e, t⟩
  · rw [h] at hkept
    refine ⟨hkept.1, hkept.2.1, ?_⟩
    rintro w ⟨⟩
  · rw [h] at hkept
    refine ⟨hkept.1, hkept.2.1, ?_⟩
    rintro w ⟨⟩
    exact hkept.2.2 v rfl
  · rw [h] at hkept
    refine ⟨hkept.1.of_eq rfl rfl, hkept.2.1, ?_⟩
    rintro w ⟨⟩

/-- Programs that are allowed in the scope of the first state keep to the regime. -/
lemma Regime.Lawful.obeys_runAll (hR : R.Lawful) (config : Config) {programs : List Program}
    {s : State} (hs : s.Obeys R)
    (hprograms : ∀ program ∈ programs, R.text s.scope (.statements program)) :
    (runAll config programs s).2.Obeys R ∧ (runAll config programs s).2.scope = s.scope ∧
      ∀ v, .returned v ∈ (runAll config programs s).1 → R.value v := by
  induction programs generalizing s with
  | nil => exact ⟨hs, rfl, by simp [runAll]⟩
  | cons program rest ih =>
      obtain ⟨hprogram, hrest⟩ := List.forall_mem_cons.mp hprograms
      obtain ⟨ht, hscope, hvalue⟩ := hR.obeys_run config ⟨hs, hprogram⟩
      obtain ⟨hu, huscope, hvalues⟩ := ih ht (by rwa [hscope])
      refine ⟨hu, huscope.trans hscope, fun v hv => ?_⟩
      obtain hfirst | hothers := List.mem_cons.mp hv
      · exact hvalue v hfirst.symm
      · exact hvalues v hothers

/-- At the start only native functions are stored, and no types are registered. -/
lemma Regime.Lawful.obeys_initial (hR : R.Lawful) (h : R.types 0 .empty) :
    State.initial.Obeys R := by
  refine ⟨fun v hv => ?_, h⟩
  obtain hheld | ⟨x, hx⟩ := Store.holds_newFrame hv
  · exact absurd hheld Store.not_holds_empty
  · obtain ⟨f, -, hf⟩ := List.mem_map.mp (Table.mem_of_find?_ofList hx)
    cases hf
    exact hR.value_of_not_capturesScope _ rfl

/-- The job comes up when a program is run on a fresh interpreter after the programs `before`. -/
def Job.ComesUp (config : Config) (before : List Program) (program : Program) (q : Job) : Prop :=
  Job.LeadsTo config ⟨.statements program, (runAll config before .initial).2⟩ q

/-- If a lawful regime allows the programs in the first scope, what comes up in their runs obeys it. -/
theorem Job.ComesUp.obeys {config : Config} (hR : R.Lawful) (htypes : R.types 0 .empty)
    {before : List Program} {program : Program} {q : Job} (h : q.ComesUp config before program)
    (hprograms : ∀ p ∈ before ++ [program], R.text State.initial.scope (.statements p)) :
    q.Obeys R := by
  have hbefore : ∀ p ∈ before, R.text State.initial.scope (.statements p) :=
    fun p hmem => hprograms p (List.mem_append_left _ hmem)
  obtain ⟨hs, hscope, -⟩ := hR.obeys_runAll config (hR.obeys_initial htypes) hbefore
  refine Job.LeadsTo.obeys hR h ⟨hs, ?_⟩
  have htext := hprograms program (by simp)
  rwa [← hscope] at htext

end

end RecordLang
