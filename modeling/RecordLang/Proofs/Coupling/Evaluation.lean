import RecordLang.Proofs.Coupling.Steps
import RecordLang.Proofs.Invocation.Coverage

/-!
Evaluation, done by two runs at once.

If two ways of defining names and of calling values are coupled, then so is all evaluation that uses
them: expressions, blocks and statements do nothing else that could tell the runs apart. Calls follow by
induction on the free places for them. A call does not look at the scope of its caller, so calls are
coupled even where the scopes differ.

* `Coupling.Environments`: environments whose definitions and calls are coupled.
* `Expr.eval_coupled`, `Block.eval_coupled`, `Statement.exec_coupled`, `Statement.execAll_coupled`: the
  evaluation of programs is coupled in such environments.
* `callWithin_coupled`: calls are coupled, if they are when one run has no place left for them.
-/

namespace RecordLang

/-! ### Environments -/

/-- Definitions and calls in the two environments are coupled. -/
structure Coupling.Environments (k : Coupling) (env env' : Env) : Prop where
  effect : env.CallsHaveEffect
  effect' : env'.CallsHaveEffect
  define : ∀ name v span, k.region.Has v → Coupled k k.InStep (fun _ => True)
    (define env.policy name v span) (define env'.policy name v span)
  call : ∀ f v span, k.region.Has f → k.region.Has v →
    Coupled k k.Alike k.region.Has (env.call f v span) (env'.call f v span)

/-! ### Blocks inside expressions and statements -/

/-- The blocks among which an expression chooses when its operands have been evaluated. -/
def Expr.blocks : Expr → List Block
  | .select _ arms _ => arms.map Prod.snd
  | _ => []

/-- The blocks among which a statement chooses when its operand has been evaluated. -/
def Statement.blocks : Statement → List Block
  | .branch _ yes no _ => yes :: no.toList
  | _ => []

/-- A block of an expression is smaller than the expression. -/
lemma Expr.sizeOf_lt_of_mem_blocks {e : Expr} {b : Block} (h : b ∈ e.blocks) :
    sizeOf b < sizeOf e := by
  cases e with
  | select subject arms span =>
      obtain ⟨⟨p, body⟩, hmem, rfl⟩ := List.mem_map.mp h
      have hlt := List.sizeOf_lt_of_mem hmem
      simp only [Prod.mk.sizeOf_spec, Expr.select.sizeOf_spec] at hlt ⊢
      omega
  | _ => exact absurd h List.not_mem_nil

/-- A block of a statement is smaller than the statement. -/
lemma Statement.sizeOf_lt_of_mem_blocks {st : Statement} {b : Block} (h : b ∈ st.blocks) :
    sizeOf b < sizeOf st := by
  cases st with
  | branch condition yes no span =>
      simp only [Statement.branch.sizeOf_spec]
      obtain rfl | hmem := List.mem_cons.mp h
      · omega
      · obtain rfl := Option.mem_toList.mp hmem
        simp only [Option.some.sizeOf_spec]
        omega
  | _ => exact absurd h List.not_mem_nil

/-! ### Expressions and statements -/

section

variable {k : Coupling} {env env' : Env}

/-- A list of expressions, each of them coupled. -/
lemma coupled_evalAll (henv : k.Environments env env') {es : List Expr}
    (h : ∀ e ∈ es, Coupled k k.InStep k.region.Has (e.eval env) (e.eval env')) :
    Coupled k k.InStep (fun vs => vs.length = es.length ∧ ∀ v ∈ vs, k.region.Has v)
      (Expr.evalAll env es) (Expr.evalAll env' es) := by
  induction es with
  | nil => exact coupled_pure ⟨rfl, by simp⟩
  | cons e rest ih =>
      obtain ⟨he, hrest⟩ := List.forall_mem_cons.mp h
      have hpure : ∀ v : Value, HasEffect [] (Expr.evalAll env' rest >>= fun vs => pure (v :: vs)) :=
        fun _ => (Expr.evalAll_effect henv.effect' rest).bind fun _ => hasEffect_pure _
      refine he.bind (fun v hv => ?_) fun v => (hpure v).addsLines
      refine (ih hrest).bindPure fun vs hvs => ⟨?_, List.forall_mem_cons.mpr ⟨hv, hvs.2⟩⟩
      rw [List.length_cons, List.length_cons, hvs.1]

/-- What an expression does with the values of its operands, given that its blocks are coupled. -/
lemma coupled_finish (henv : k.Environments env env') (e : Expr) {vs : List Value}
    (hlength : vs.length = e.operands.length) (hvs : ∀ v ∈ vs, k.region.Has v)
    (hblocks : ∀ b ∈ e.blocks, Coupled k k.InStep k.region.Has (b.eval env) (b.eval env')) :
    Coupled k k.InStep k.region.Has
      (e.finish (fun f v span => env.call f v span) (Block.eval env) vs)
      (e.finish (fun f v span => env'.call f v span) (Block.eval env') vs) := by
  have hcall : ∀ f v span, k.region.Has f → k.region.Has v → Coupled k k.InStep k.region.Has
      (liftM (env.call f v span) : Eval Value) (liftM (env'.call f v span)) :=
    fun f v span hf hv =>
      ((henv.call f v span hf hv).inStep (henv.effect f v span) (henv.effect' f v span)).lift
  have hzip : ∀ names : List String, ∀ vs' ⊆ vs, ∀ field ∈ names.zip vs', k.region.Has field.2 :=
    fun names vs' hsub field hfield => hvs _ (hsub (List.of_mem_zip hfield).2)
  cases e with
  | identifier name span => exact (coupled_getName name _).lift
  | typeRef path => exact (coupled_resolve path).lift.bindPure fun entry _ => Region.has_toValue entry
  | literal l span => cases l <;> exact coupled_pure trivial
  | record fields span => exact (coupled_newRecord (hzip _ vs (List.Subset.refl _))).lift
  | list items span => exact (coupled_newList hvs).lift
  | binary op left right span =>
      obtain ⟨l, r, rfl⟩ := List.length_eq_two.mp hlength
      refine coupled_evalRead (fun s => blames_binary (List.mem_singleton_self _) s.store op l r)
        (fun s t hst => hst.store.sameContainers.binary_eq op l r span) ?_
      exact fun _ _ _ _ hw => Region.has_of_isAtom (isAtom_of_binary hw)
  | unary op operand span =>
      obtain ⟨v, rfl⟩ := List.length_eq_one_iff.mp hlength
      exact (coupled_except (blames_unary (List.mem_singleton_self _) op v)
        fun w hw => Region.has_of_isAtom (isAtom_of_unary hw)).lift
  | call callee argument span =>
      obtain ⟨f, v, rfl⟩ := List.length_eq_two.mp hlength
      exact hcall f v span (hvs f (by simp)) (hvs v (by simp))
  | callNamed callee arguments span =>
      cases vs with
      | nil => exact absurd hlength (by simp [Expr.operands])
      | cons f vs =>
          have hfields := hzip (arguments.map Prod.fst) vs (List.subset_cons_self f vs)
          refine (coupled_newRecord hfields).lift.bind
            (fun v hv => hcall f v span (hvs f List.mem_cons_self) hv) ?_
          exact fun v => (henv.effect' f v span).lift.addsLines
  | field base name span =>
      obtain ⟨v, rfl⟩ := List.length_eq_one_iff.mp hlength
      refine coupled_evalRead (fun s => blames_readField (List.mem_singleton_self _) s.store v name)
        (fun s t hst => hst.store.sameContainers.readField_eq v name span) ?_
      exact fun _ _ _ hst hw => hst.closed.has_readField (hvs v List.mem_cons_self) hw
  | index base position span =>
      obtain ⟨target, v, rfl⟩ := List.length_eq_two.mp hlength
      refine coupled_evalRead (fun s => blames_readIndex (List.mem_singleton_self _) s.store target v)
        (fun s t hst => hst.store.sameContainers.readIndex_eq target v span) ?_
      exact fun _ _ _ hst hw => hst.closed.has_readIndex (hvs target List.mem_cons_self) hw
  | select subject arms span =>
      obtain ⟨v, rfl⟩ := List.length_eq_one_iff.mp hlength
      refine coupled_choose (hvs v List.mem_cons_self) span (fun arm harm => ?_)
        (fun b => Block.eval_effect henv.effect b) fun b => Block.eval_effect henv.effect' b
      exact hblocks arm.2 (List.mem_map_of_mem harm)
  | lambda params body span => exact (coupled_newLambda params body).lift

/-- What a statement does with the value of its operand, given that its blocks are coupled. -/
lemma coupled_statementFinish (henv : k.Environments env env') (st : Statement) {v : Value}
    (hv : k.region.Has v)
    (hblocks : ∀ b ∈ st.blocks, Coupled k k.InStep k.region.Has (b.eval env) (b.eval env')) :
    Coupled k k.InStep (fun _ => True) (st.finish env.policy (Block.eval env) v)
      (st.finish env'.policy (Block.eval env') v) := by
  cases st with
  | const name value span => exact (henv.define name v span hv).lift
  | assign name value span => exact (coupled_assign name hv _).lift
  | classDef decl =>
      exact coupled_defineType decl.name .ofClass decl.span (coupled_newClass decl none)
        fun v hv => henv.define decl.name v decl.span hv
  | groupDef decl =>
      exact coupled_defineType decl.name .ofGroup decl.span (coupled_newGroup decl)
        fun v hv => henv.define decl.name v decl.span hv
  | function name arms span =>
      refine (coupled_newFunction name arms).lift.bind (fun f hf => (henv.define name f span hf).lift) ?_
      exact fun f => (hasEffect_define env'.policy f span (List.mem_singleton_self name)).lift.addsLines
  | leave value span => exact coupled_throw (.returned hv)
  | branch condition yes no span =>
      refine coupled_liftExcept_bind (blames_expectBoolean (List.mem_singleton_self _) v) fun b _ => ?_
      have hbody : ∀ body, (if b then some yes else no) = some body →
          Coupled k k.InStep k.region.Has (body.eval env) (body.eval env') := by
        intro body hbody
        refine hblocks body ?_
        obtain rfl | hno := Block.eq_of_branch hbody
        · exact List.mem_cons_self
        · exact List.mem_cons_of_mem _ (Option.mem_toList.mpr hno)
      split
      · next body hselected =>
          exact ((hbody body hselected).withFrame Region.hasTable_empty
            (Block.eval_effect henv.effect body) (Block.eval_effect henv.effect' body)).discard
      · exact coupled_pure trivial
  | log value span =>
      refine coupled_modify fun s t hst => ?_
      rw [hst.store.sameContainers.text_eq]
      exact hst.log _
  | logType path span =>
      have hlog : ∀ entry : TypeEntry, HasEffect [] (modify (·.log [entry.text]) : Eval Unit) :=
        fun entry => hasEffect_modify fun s => .log _
      refine (coupled_resolve path).lift.bind (fun entry _ => ?_) fun entry => (hlog entry).addsLines
      exact coupled_modify fun s t hst => hst.log _
  | expression value span => exact coupled_pure trivial

/-- An optional expression that is coupled, if there is one. -/
lemma coupled_evalOption {o : Option Expr}
    (h : ∀ e, o = some e → Coupled k k.InStep k.region.Has (e.eval env) (e.eval env')) :
    Coupled k k.InStep k.region.Has (Expr.evalOption env o) (Expr.evalOption env' o) := by
  cases o with
  | none => exact coupled_pure trivial
  | some e => exact h e rfl

/-- Statements that are coupled one by one. -/
lemma coupled_execAll (henv : k.Environments env env') {sts : List Statement}
    (h : ∀ st ∈ sts, Coupled k k.InStep (fun _ => True) (st.exec env) (st.exec env')) :
    Coupled k k.InStep (fun _ => True) (Statement.execAll env sts) (Statement.execAll env' sts) := by
  induction sts with
  | nil => exact coupled_pure trivial
  | cons st rest ih =>
      obtain ⟨hst, hrest⟩ := List.forall_mem_cons.mp h
      exact hst.bind (fun _ _ => ih hrest) fun _ =>
        (Statement.execAll_effect henv.effect' rest).addsLines

mutual

/-- **Expressions are coupled** in environments that are. -/
theorem Expr.eval_coupled (henv : k.Environments env env') (e : Expr) :
    Coupled k k.InStep k.region.Has (e.eval env) (e.eval env') := by
  rw [Expr.eval_eq_finish, Expr.eval_eq_finish]
  refine (coupled_evalAll henv fun operand hoperand => ?_).bind
    (fun vs hvs => coupled_finish henv e hvs.1 hvs.2 fun b hb => ?_)
    fun vs => (e.finish_effect henv.effect' vs).addsLines
  · have hlt := Expr.sizeOf_lt_of_mem_operands hoperand
    exact Expr.eval_coupled henv operand
  · have hlt := Expr.sizeOf_lt_of_mem_blocks hb
    exact Block.eval_coupled henv b
termination_by sizeOf e

theorem Block.eval_coupled (henv : k.Environments env env') (b : Block) :
    Coupled k k.InStep k.region.Has (b.eval env) (b.eval env') := by
  obtain ⟨sts, tail⟩ := b
  rw [Block.eval, Block.eval]
  refine (coupled_execAll henv fun st hst => ?_).bind
    (fun _ _ => coupled_evalOption fun e he => ?_)
    fun _ => (Expr.evalOption_effect henv.effect' tail).addsLines
  · have hlt := List.sizeOf_lt_of_mem hst
    exact Statement.exec_coupled henv st
  · exact Expr.eval_coupled henv e
termination_by sizeOf b
decreasing_by all_goals simp_all; omega

theorem Statement.exec_coupled (henv : k.Environments env env') (st : Statement) :
    Coupled k k.InStep (fun _ => True) (st.exec env) (st.exec env') := by
  rw [Statement.exec_eq_finish, Statement.exec_eq_finish]
  refine (coupled_evalOption fun e he => ?_).bind
    (fun v hv => coupled_statementFinish henv st hv fun b hb => ?_)
    fun v => (st.finish_effect henv.effect' v).addsLines
  · have hlt := Statement.sizeOf_lt_of_operand? he
    exact Expr.eval_coupled henv e
  · have hlt := Statement.sizeOf_lt_of_mem_blocks hb
    exact Block.eval_coupled henv b
termination_by sizeOf st

end

/-- Statements are coupled in environments that are. -/
lemma Statement.execAll_coupled (henv : k.Environments env env') (sts : List Statement) :
    Coupled k k.InStep (fun _ => True) (Statement.execAll env sts) (Statement.execAll env' sts) :=
  coupled_execAll henv fun st _ => Statement.exec_coupled henv st

end

/-! ### Calls -/

section

variable {k : Coupling} {config config' : Config}

lemma MatchFunction.runWith_coupled {env env' : Env} (henv : k.Environments env env')
    {f : MatchFunction} (hf : k.region.HasScope f.scope) {argument : Value}
    (hargument : k.region.Has argument) (span : Span) :
    Coupled k k.Alike k.region.Has (f.runWith (Block.eval env) argument span)
      (f.runWith (Block.eval env') argument span) := by
  refine Coupled.withScope (coupled_choose hargument span (fun arm _ => ?_)
    (fun b => Block.eval_effect henv.effect b) fun b => Block.eval_effect henv.effect' b) hf
  exact Block.eval_coupled henv arm.2

lemma Lambda.runWith_coupled {env env' : Env} (henv : k.Environments env env') {f : Lambda}
    (hf : k.region.HasScope f.scope) {argument : Value} (hargument : k.region.Has argument)
    (span : Span) :
    Coupled k k.Alike k.region.Has (f.runWith (Block.eval env) argument span)
      (f.runWith (Block.eval env') argument span) := by
  have hbody := Block.eval_effect henv.effect' f.body
  have hframe : ∀ params,
      HasEffect [] (withScope f.scope (withFrame params (f.body.eval env'))) :=
    fun params => (hbody.withFrame params).withScope f.scope
  refine (coupled_bindParams f hargument span).lift.bind (fun params hparams => ?_)
    fun params => (hframe params).addsLines
  exact ((Block.eval_coupled henv f.body).withFrame hparams (Block.eval_effect henv.effect f.body)
    hbody).withScope hf

/-- Calls are coupled where the first run has `room` and the second `room'` free places for them. -/
def Coupling.Calls (k : Coupling) (config config' : Config) (room room' : Nat) : Prop :=
  ∀ target argument span, k.region.Has target → k.region.Has argument →
    Coupled k k.Alike k.region.Has (callWithin config room target argument span)
      (callWithin config' room' target argument span)

/-- A call that is not recorded takes no place: a class makes an object, and anything else cannot be
called. -/
lemma coupled_unrecorded {target argument : Value} (htarget : target.callee? = none)
    (hargument : k.region.Has argument) (span : Span) (room room' : Nat) :
    Coupled k k.Alike k.region.Has (callWithin config room target argument span)
      (callWithin config' room' target argument span) := by
  cases target with
  | function f | lambda f | native f => cases htarget
  | ofClass c =>
      have hclass : ∀ (config : Config) (room : Nat),
          callWithin config room (.ofClass c) argument span = construct c argument span := by
        intro config room
        cases room <;> rfl
      rw [hclass, hclass]
      exact coupled_construct c hargument span
  | _ => cases room <;> cases room' <;> exact coupled_fault trivial

/-- A call that would be recorded finds no free place. -/
lemma callWithin_zero {target : Value} {callee : String} (h : target.callee? = some callee)
    (argument : Value) (span : Span) :
    callWithin config 0 target argument span
      = throw (.fault (.recursionLimit config.maxCallDepth) (some span)) := by
  cases target with
  | function f | lambda f | native f => rfl
  | _ => cases h

/-- When neither run has a free place, both fail with the limit. -/
lemma Coupling.calls_zero
    (h : ∀ span, k.same (.fault (.recursionLimit config.maxCallDepth) span)
      (.fault (.recursionLimit config'.maxCallDepth) span)) : k.Calls config config' 0 0 := by
  intro target argument span _ hargument
  cases htarget : target.callee? with
  | none => exact coupled_unrecorded htarget hargument span 0 0
  | some callee =>
      rw [callWithin_zero htarget, callWithin_zero htarget]
      exact coupled_throw (.failed (h _))

/-- **Calls are coupled**, whatever places both runs have left, if definitions are and if calls are when
the first run has no place left. -/
theorem callWithin_coupled
    (hdefine : ∀ name v span, k.region.Has v → Coupled k k.InStep (fun _ => True)
      (define config.redefinition name v span) (define config'.redefinition name v span))
    {extra : Nat} (hfull : k.Calls config config' 0 extra) (room : Nat) :
    k.Calls config config' room (room + extra) := by
  -- A body has one place less for its calls, in both runs.
  induction room with
  | zero =>
      rw [Nat.zero_add]
      exact hfull
  | succ room ih =>
      have henv : k.Environments (config.env room) (config'.env (room + extra)) :=
        ⟨config.env_effect room, config'.env_effect (room + extra), hdefine, ih⟩
      intro target argument span htarget hargument
      rw [Nat.add_right_comm]
      cases target with
      | function f =>
          rw [callWithin_function, callWithin_function]
          exact (f.runWith_coupled henv htarget hargument span).settle.recordingCall
            (f.runWith_effect henv.effect).settle (f.runWith_effect henv.effect').settle f.name span
      | lambda f =>
          rw [callWithin_lambda, callWithin_lambda]
          exact (f.runWith_coupled henv htarget hargument span).settle.recordingCall
            (f.runWith_effect henv.effect).settle (f.runWith_effect henv.effect').settle _ span
      | native f =>
          exact (coupled_native f hargument _).recordingCall (hasEffect_native f argument _)
            (hasEffect_native f argument _) f.name span
      | _ => exact coupled_unrecorded rfl hargument span _ _

/-- How evaluation proceeds is coupled, if definitions are and if calls are when the first run has no
place left. -/
lemma Coupling.environments
    (hdefine : ∀ name v span, k.region.Has v → Coupled k k.InStep (fun _ => True)
      (define config.redefinition name v span) (define config'.redefinition name v span))
    {extra : Nat} (hfull : k.Calls config config' 0 extra) (room : Nat) :
    k.Environments (config.env room) (config'.env (room + extra)) :=
  ⟨config.env_effect room, config'.env_effect (room + extra), hdefine,
    callWithin_coupled hdefine hfull room⟩

end

end RecordLang
