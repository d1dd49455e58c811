import RecordLang.Proofs.Invocation.Coverage
import RecordLang.Proofs.Validity.Steps

/-!
Evaluation keeps states valid.

A job is valid if its state is and if its task is about no other sites and values. The outcome of a
valid job is safe. The proof follows the jobs that a job invokes: each of them is valid when it starts,
because what was evaluated before it left a valid state, and there is no endless chain of them.

* `Job.Valid`: a valid job.
* `Job.InvokesSafely`: the induction hypothesis, for the jobs that a job invokes.
* `Job.safe`: valid jobs have safe outcomes.
-/

namespace RecordLang

/-! ### Valid jobs -/

/-- A task about values that are valid in the store, with no sites but `sites`. -/
def Task.Valid (sites : List Site) (st : Store) : Task → Prop
  | .expr e => e.sites ⊆ sites
  | .statement st => st.sites ⊆ sites
  | .statements sts => Statement.sitesAll sts ⊆ sites
  | .block b => b.sites ⊆ sites
  | .call target argument span =>
      target.Valid sites st ∧ argument.Valid sites st ∧ .place span ∈ sites

/-- A valid task in a valid state. -/
structure Job.Valid (sites : List Site) (p : Job) : Prop where
  state : p.state.Valid sites
  task : p.task.Valid sites p.state.store

/-- Whatever the job invokes is safe if it is valid. -/
def Job.InvokesSafely (config : Config) (sites : List Site) (p : Job) : Prop :=
  ∀ q, p.Invokes config q → q.Valid sites → Safe sites (ValidResult sites) (q.outcome config)

section

variable {config : Config} {sites : List Site} {p : Job} {s s₀ : State}

/-- An expression that is invoked, in the environment of an earlier state. -/
lemma Job.InvokesSafely.expr (hp : p.InvokesSafely config sites) {e : Expr}
    (h : p.Invokes config ⟨.expr e, s⟩) (hs : s.Valid sites) (he : e.sites ⊆ sites)
    (hcalls : s.calls = s₀.calls) : Safe sites (ValidResult sites) (e.eval (s₀.env config) s) := by
  rw [← State.env_eq hcalls]
  exact hp _ h ⟨hs, he⟩

/-- A block that is invoked, in the environment of an earlier state. -/
lemma Job.InvokesSafely.block (hp : p.InvokesSafely config sites) {b : Block}
    (h : p.Invokes config ⟨.block b, s⟩) (hs : s.Valid sites) (hb : b.sites ⊆ sites)
    (hcalls : s.calls = s₀.calls) : Safe sites (ValidResult sites) (b.eval (s₀.env config) s) := by
  rw [← State.env_eq hcalls]
  exact hp _ h ⟨hs, hb⟩

/-- A call that is invoked, in the environment of an earlier state. -/
lemma Job.InvokesSafely.call (hp : p.InvokesSafely config sites) {f v : Value} {span : Span}
    (h : p.Invokes config ⟨.call f v span, s⟩) (hs : s.Valid sites) (hf : f.Valid sites s.store)
    (hv : v.Valid sites s.store) (hspan : .place span ∈ sites) (hcalls : s.calls = s₀.calls) :
    Safe sites (ValidResult sites) ((liftM ((s₀.env config).call f v span) : Eval Value) s) := by
  rw [← State.env_eq hcalls]
  exact hp _ h ⟨hs, hf, hv, hspan⟩

/-! ### Expressions -/

/-- The operands of an expression, from some point on. -/
lemma safe_operands {e : Expr} {done es : List Expr} {ws : List Value}
    (hp : Job.InvokesSafely config sites ⟨.expr e, s₀⟩) (he : e.sites ⊆ sites)
    (hsplit : e.operands = done ++ es) (hdone : Expr.evalAll (s₀.env config) done s₀ = .ok ws s)
    (hs : s.Valid sites) :
    Safe sites (fun vs t => ∀ v ∈ vs, v.Valid sites t.store) (Expr.evalAll (s₀.env config) es s) := by
  induction es generalizing done ws s with
  | nil => exact ⟨hs, by simp⟩
  | cons operand rest ih =>
      have henv := s₀.env_effect config
      have hmem : operand ∈ e.operands := by
        rw [hsplit]
        simp
      have hoperand := hp.expr (.operand hsplit hdone) hs
        (List.Subset.trans (Expr.sites_subset_of_mem_operands hmem) he)
        (Expr.calls_of_evalAll hdone)
      rw [Expr.evalAll]
      refine hoperand.bind (Expr.eval_effect henv operand) fun v t hv _ ht hvalid => ?_
      have hrest := ih (by rw [hsplit, List.append_assoc, List.singleton_append])
        (Expr.evalAll_snoc hdone hv) ht
      refine hrest.bind (Expr.evalAll_effect henv rest) fun vs u _ hu hu' hvs => ?_
      exact ⟨hu', List.forall_mem_cons.mpr ⟨ht.after hu hvalid, hvs⟩⟩

/-- What an expression does with valid values of its operands. -/
lemma safe_finish (e : Expr) {t : State} {vs : List Value}
    (hp : Job.InvokesSafely config sites ⟨.expr e, s⟩) (he : e.sites ⊆ sites)
    (h : Expr.evalAll (s.env config) e.operands s = .ok vs t) (ht : t.Valid sites)
    (hvs : ∀ v ∈ vs, v.Valid sites t.store) :
    Safe sites (ValidResult sites)
      (e.finish (fun f v span => (s.env config).call f v span) (Block.eval (s.env config)) vs t) := by
  have hcalls : t.calls = s.calls := Expr.calls_of_evalAll h
  have hlength := Expr.length_of_evalAll h
  have hspan : .place e.span ∈ sites := he e.place_mem_sites
  have hzip : ∀ names : List String, ∀ vs' ⊆ vs, ∀ field ∈ names.zip vs',
      field.2.Valid sites t.store :=
    fun names vs' hsub field hfield => hvs _ (hsub (List.of_mem_zip hfield).2)
  cases e with
  | identifier name span => exact (safe_getName ht hspan name).lift
  | typeRef path =>
      refine (safe_resolve ht he).lift.bind (hasEffect_resolve path).lift
        fun entry u _ (_ : Effect [] t none u) hu hentry => ?_
      exact ⟨hu, hentry⟩
  | literal l span => cases l <;> exact ⟨ht, trivial⟩
  | record fields span => exact (safe_newRecord ht (hzip _ vs (List.Subset.refl _))).lift
  | list items span => exact (safe_newList ht hvs).lift
  | binary op left right span =>
      obtain ⟨l, r, rfl⟩ := List.length_eq_two.mp hlength
      refine (safe_except ht (blames_binary hspan t.store op l r) fun w hw => ?_).lift
      exact .of_isAtom (isAtom_of_binary hw)
  | unary op operand span =>
      obtain ⟨v, rfl⟩ := List.length_eq_one_iff.mp hlength
      refine (safe_except ht (blames_unary hspan op v) fun w hw => ?_).lift
      exact .of_isAtom (isAtom_of_unary hw)
  | call callee argument span =>
      obtain ⟨f, v, rfl⟩ := List.length_eq_two.mp hlength
      exact hp.call (.call h) ht (hvs f (by simp)) (hvs v (by simp)) hspan hcalls
  | callNamed callee arguments span =>
      cases vs with
      | nil => exact absurd hlength (by simp [Expr.operands])
      | cons f vs =>
          have hfields := hzip (arguments.map Prod.fst) vs (List.subset_cons_self f vs)
          refine (safe_newRecord ht hfields).lift.bind (hasEffect_newRecord _).lift
            fun v u hv (hu : Effect [] t none u) hu' hvalid => ?_
          have hf := ht.after hu (hvs f List.mem_cons_self)
          rw [lift_apply] at hv
          cases hv
          exact hp.call (.callNamed h rfl) hu' hf hvalid hspan hcalls
  | field base name span =>
      obtain ⟨v, rfl⟩ := List.length_eq_one_iff.mp hlength
      refine (safe_except ht (blames_readField hspan t.store v name) fun w hw => ?_).lift
      obtain hheld | ⟨g, c, rfl, hvariant, rfl⟩ := holds_of_readField hw
      · exact ht.held w hheld
      · exact hvs _ List.mem_cons_self name c hvariant
  | index base position span =>
      obtain ⟨target, v, rfl⟩ := List.length_eq_two.mp hlength
      refine (safe_except ht (blames_readIndex hspan t.store target v) fun w hw => ?_).lift
      exact ht.held w (holds_of_readIndex hw)
  | select subject arms span =>
      obtain ⟨v, rfl⟩ := List.length_eq_one_iff.mp hlength
      have harms : Block.armSites arms ⊆ sites := fun site hsite => he (by simp [Expr.sites, hsite])
      refine safe_choose ht hspan (hvs v List.mem_cons_self) harms (s.env_effect config) ?_
      exact fun body bindings hfirst hbody hframe => hp.block (.arm h hfirst) hframe hbody hcalls
  | lambda params body span =>
      have hparams : paramSites params ⊆ sites := fun site hsite => he (by simp [Expr.sites, hsite])
      have hbody : body.sites ⊆ sites := fun site hsite => he (by simp [Expr.sites, hsite])
      exact (safe_newLambda ht hparams hbody).lift

/-- An expression evaluates its operands, one in the state that the other left. -/
lemma safe_expr {e : Expr} (hp : Job.InvokesSafely config sites ⟨.expr e, s⟩) (hs : s.Valid sites)
    (he : e.sites ⊆ sites) : Safe sites (ValidResult sites) (e.eval (s.env config) s) := by
  have hoperands := safe_operands hp he (List.nil_append e.operands).symm rfl hs
  rw [Expr.eval_eq_finish]
  exact hoperands.bind (Expr.evalAll_effect (s.env_effect config) e.operands)
    fun vs t hvs _ ht hvalid => safe_finish e hp he hvs ht hvalid

/-! ### Statements and blocks -/

/-- What a statement does with a valid value of its operand. -/
lemma safe_statementFinish (st : Statement) {t : State} {v : Value}
    (hp : Job.InvokesSafely config sites ⟨.statement st, s⟩) (hst : st.sites ⊆ sites)
    (h : Expr.evalOption (s.env config) st.operand? s = .ok v t) (hcalls : t.calls = s.calls)
    (ht : t.Valid sites) (hv : v.Valid sites t.store) :
    Safe sites AnyResult (st.finish config.redefinition (Block.eval (s.env config)) v t) := by
  cases st with
  | const name value span =>
      exact (safe_define ht (hst List.mem_cons_self) _ name hv).lift
  | assign name value span =>
      exact (safe_assign ht (hst List.mem_cons_self) name hv).lift
  | classDef decl =>
      refine safe_defineType (hst List.mem_cons_self) _ decl.name TypeEntry.ofClass ?_
        (hasEffect_newClass decl none)
      exact ⟨ht.nextId _, valid_newClass hst t.store none⟩
  | groupDef decl =>
      refine safe_defineType (hst List.mem_cons_self) _ decl.name TypeEntry.ofGroup ?_
        (hasEffect_newGroup decl)
      exact ⟨ht.newGroup decl, valid_newGroup hst t.store _⟩
  | function name arms span =>
      have harms : Block.armSites arms ⊆ sites := fun site hsite => hst (List.mem_cons_of_mem _ hsite)
      refine (safe_newFunction ht name harms).lift.bind (hasEffect_newFunction name arms).lift
        fun f u _ (_ : Effect [] t none u) hu hf => ?_
      exact (safe_define hu (hst List.mem_cons_self) _ name hf).lift
  | leave value span => exact ⟨ht, hv⟩
  | branch condition yes no span =>
      have hcondition : .place condition.span ∈ sites :=
        hst (by simp [Statement.sites, condition.place_mem_sites])
      have hboolean : Safe sites (fun b u => v = .boolean b ∧ u = t)
          ((liftM (v.expectBoolean (some condition.span)) : Run Bool) t) :=
        safe_except ht (blames_expectBoolean hcondition v) fun b hb =>
          ⟨Value.eq_boolean_of_expectBoolean hb, rfl⟩
      refine hboolean.lift.bind (hasEffect_liftExcept _)
        fun b u _ (_ : Effect [] t none u) _ hb => ?_
      obtain ⟨rfl, rfl⟩ := hb
      cases hbody : (if b then some yes else no) with
      | none => exact ⟨ht, trivial⟩
      | some body =>
          have hsites : body.sites ⊆ sites := by
            intro site hsite
            apply hst
            obtain rfl | rfl := Block.eq_of_branch hbody
            · simp [Statement.sites, hsite]
            · simp [Statement.sites, Block.optionSites, hsite]
          have hblock := hp.block (.branch h hbody) ht.enterEmpty hsites hcalls
          exact (hblock.withFrame (Block.eval_effect (s.env_effect config) body)).discard
  | log value span => exact ⟨ht.of_eq rfl rfl, trivial⟩
  | logType path span =>
      refine (safe_resolve ht (List.cons_subset.mp hst).2).lift.bind (hasEffect_resolve path).lift
        fun entry u _ (_ : Effect [] t none u) hu _ => ?_
      exact ⟨hu.of_eq rfl rfl, trivial⟩
  | expression value span => exact ⟨ht, trivial⟩

/-- A statement evaluates its operand and uses its value in the state that this left. -/
lemma safe_statement {st : Statement} (hp : Job.InvokesSafely config sites ⟨.statement st, s⟩)
    (hs : s.Valid sites) (hst : st.sites ⊆ sites) :
    Safe sites AnyResult (st.exec (s.env config) s) := by
  have hoperand : Safe sites (ValidResult sites) (Expr.evalOption (s.env config) st.operand? s) := by
    cases h : st.operand? with
    | none => exact ⟨hs, trivial⟩
    | some e =>
        have he := List.Subset.trans (Statement.sites_subset_of_operand? h) hst
        exact hp.expr (.statementOperand h) hs he rfl
  rw [Statement.exec_eq_finish]
  refine hoperand.bind (Expr.evalOption_effect (s.env_effect config) st.operand?)
    fun v t hv heffect ht hvalid => ?_
  exact safe_statementFinish st hp hst hv heffect.calls_of_settled ht hvalid

/-- The statements of a list, from some point on. -/
lemma safe_execAll {sts done rest : List Statement}
    (hp : Job.InvokesSafely config sites ⟨.statements sts, s₀⟩) (hrest : Statement.sitesAll rest ⊆ sites)
    (hsplit : sts = done ++ rest) (hdone : Statement.execAll (s₀.env config) done s₀ = .ok () s)
    (hs : s.Valid sites) : Safe sites AnyResult (Statement.execAll (s₀.env config) rest s) := by
  induction rest generalizing done s with
  | nil => exact ⟨hs, trivial⟩
  | cons st rest ih =>
      obtain ⟨hst, hrest⟩ := List.append_subset.mp hrest
      have hcalls := Statement.calls_of_execAll hdone
      have hfirst : Safe sites (ValidResult sites)
          ((st.exec (s₀.env config) >>= fun _ => pure Value.nil : Eval Value) s) := by
        rw [← State.env_eq hcalls]
        exact hp ⟨.statement st, s⟩ (.statement hsplit hdone) ⟨hs, hst⟩
      have hfirst := hfirst.discard
      rw [discard_bind_pure] at hfirst
      refine hfirst.bind (Statement.exec_effect (s₀.env_effect config) st) fun _ t ht _ ht' _ => ?_
      exact ih hrest (by rw [hsplit, List.append_assoc, List.singleton_append])
        (Statement.execAll_snoc hdone ht) ht'

/-- A block runs its statements and then evaluates its last expression. -/
lemma safe_block {b : Block} (hp : Job.InvokesSafely config sites ⟨.block b, s⟩) (hs : s.Valid sites)
    (hb : b.sites ⊆ sites) : Safe sites (ValidResult sites) (b.eval (s.env config) s) := by
  obtain ⟨sts, tail⟩ := b
  obtain ⟨hsts, htail⟩ := List.append_subset.mp hb
  have hbody : Safe sites (ValidResult sites)
      ((Statement.execAll (s.env config) sts >>= fun _ => pure Value.nil : Eval Value) s) :=
    hp ⟨.statements sts, s⟩ .body ⟨hs, hsts⟩
  have hbody := hbody.discard
  rw [discard_bind_pure] at hbody
  refine hbody.bind (Statement.execAll_effect (s.env_effect config) sts)
    fun _ t ht heffect ht' _ => ?_
  cases tail with
  | none => exact ⟨ht', trivial⟩
  | some e => exact hp.expr (.tail ht) ht' htail heffect.calls_of_settled

/-! ### Calls -/

/-- A call of a value whose calls are recorded: the limit is reached, or the body is safe with the call
on top. -/
lemma safe_recorded {target argument : Value} {span : Span} {callee : String} {y : Env → Eval Value}
    (hs : s.Valid sites) (hspan : .place span ∈ sites)
    (hfull : callWithin config 0 target argument span
      = throw (.fault (.recursionLimit config.maxCallDepth) (some span)))
    (hfree : ∀ room, callWithin config (room + 1) target argument span
      = recordingCall callee span (settle (y (config.env room))))
    (heffect : ∀ env : Env, env.CallsHaveEffect → HasEffect [] (y env))
    (hbody : s.calls.length < config.maxCallDepth → (s.calling ⟨callee, some span⟩).Valid sites →
      Safe sites (ValidResult sites)
        (y ((s.calling ⟨callee, some span⟩).env config) (s.calling ⟨callee, some span⟩))) :
    Safe sites (ValidResult sites) (call config target argument span s) := by
  by_cases hroom : s.calls.length < config.maxCallDepth
  · rw [call, State.room_eq_succ ⟨callee, some span⟩ hroom, hfree]
    exact (hbody hroom (hs.of_eq rfl rfl)).settle.recordingCall
      (heffect _ (config.env_effect _)).settle
  · rw [call, State.room_eq_zero hroom, hfull]
    exact safe_throw hs hspan trivial

/-- A call runs the body of what is called. -/
lemma safe_call {target argument : Value} {span : Span}
    (hp : Job.InvokesSafely config sites ⟨.call target argument span, s⟩) (hs : s.Valid sites)
    (htarget : target.Valid sites s.store) (hargument : argument.Valid sites s.store)
    (hspan : .place span ∈ sites) :
    Safe sites (ValidResult sites) (call config target argument span s) := by
  cases target with
  | function f =>
      refine safe_recorded (y := fun env => f.runWith (Block.eval env) argument span) hs hspan rfl
        (fun room => callWithin_function config room argument span f)
        (fun env henv => f.runWith_effect henv) fun hroom hcalling => ?_
      have hscope : State.Valid sites { s.calling ⟨f.name, some span⟩ with scope := f.scope } :=
        hcalling.of_eq rfl rfl
      refine (safe_choose hscope hspan hargument htarget (State.env_effect config _)
        fun body bindings hfirst hbody hframe => ?_).withScope
      exact hp.block (.function hroom hfirst) hframe hbody rfl
  | lambda f =>
      obtain ⟨hparams, hbody⟩ := htarget
      refine safe_recorded (y := fun env => f.runWith (Block.eval env) argument span) hs hspan rfl
        (fun room => callWithin_lambda config room argument span f)
        (fun env henv => f.runWith_effect henv) fun hroom hcalling => ?_
      refine (safe_bindParams hcalling hspan hparams argument).lift.bind
        (hasEffect_bindParams f argument span).lift
        fun params t ht (_ : Effect [] _ none t) _ hvalid => ?_
      obtain ⟨hbound, rfl⟩ := f.eq_ok_of_bindParams ht
      have hscope : State.Valid sites { s.calling ⟨Lambda.callee, some span⟩ with scope := f.scope } :=
        hcalling.of_eq rfl rfl
      have hblock := hp.block (.lambda hroom hbound) (hscope.enterFrame hvalid) hbody rfl
      exact (hblock.withFrame (Block.eval_effect (State.env_effect config _) f.body)).withScope
  | native f =>
      refine safe_recorded (y := fun _ => liftM (f.call argument span)) hs hspan rfl
        (fun room => callWithin_native config room argument span f)
        (fun _ _ => (hasEffect_native f argument _).lift) fun _ hcalling => ?_
      exact (safe_native hcalling hspan f argument).lift
  | ofClass c =>
      have hconstruct := safe_construct hs hspan htarget hargument
      rw [call]
      cases s.room config <;> exact hconstruct
  | _ =>
      rw [call]
      cases s.room config <;> exact safe_throw hs hspan trivial

end

/-! ### Jobs -/

/-- **Safety.** The outcome of a valid job is safe. -/
theorem Job.safe (config : Config) {sites : List Site} (p : Job) (h : p.Valid sites) :
    Safe sites (ValidResult sites) (p.outcome config) := by
  induction p using (Job.wellFounded_invokes config).induction with
  | _ p ih =>
      have hp : p.InvokesSafely config sites := ih
      obtain ⟨task, s⟩ := p
      obtain ⟨hs, htask⟩ := h
      cases task with
      | expr e => exact safe_expr hp hs htask
      | statement st =>
          have heffect := Statement.exec_effect (s.env_effect config) st
          exact (safe_statement hp hs htask).bind heffect fun _ t _ _ ht _ => ⟨ht, trivial⟩
      | statements sts =>
          have heffect := Statement.execAll_effect (s.env_effect config) sts
          have hall := safe_execAll hp htask (List.nil_append sts).symm rfl hs
          exact hall.bind heffect fun _ t _ _ ht _ => ⟨ht, trivial⟩
      | block b => exact safe_block hp hs htask
      | call target argument span =>
          obtain ⟨htarget, hargument, hspan⟩ := htask
          exact (safe_call hp hs htarget hargument hspan).lift

end RecordLang
