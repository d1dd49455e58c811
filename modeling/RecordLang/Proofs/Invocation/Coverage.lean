import RecordLang.Proofs.Invocation.Plain

/-!
Invoked jobs cover all of evaluation.

What a job invokes is all that its outcome depends on beyond its own rule. There are finitely many
invoked jobs; whatever answers are supplied for other tasks, the rule gives the outcome of the job as
soon as these few are answered as evaluation does. And a job fails either by itself, with the active
calls as they were when its own part began, or with one of the jobs it invokes.

* `Covered`: an action with open references is accounted for by the jobs that a job invokes.
* `Covered.bind`, `Covered.withFrame`, `Covered.withScope`: how such actions are put together.
* `Job.entered?`: the call that a job records, if it records one.
* `Job.isCovered`: every job is covered by the jobs it invokes.
-/

namespace RecordLang

/-! ### Coverage -/

/-- The action `x`, in which all references to further tasks are open, ends from the state `s` as `y`
does, and the jobs that `p` invokes account for this: finitely many answers settle `x`, and `y` fails by
itself or with one of these jobs. -/
def Covered {α : Type} (config : Config) (p : Job) (x : (Task → Eval Value) → Eval α) (y : Eval α)
    (s : State) : Prop :=
  ∃ asked : List Job, (∀ q ∈ asked, p.Invokes config q) ∧
    (∀ answer : Task → Eval Value, (∀ q ∈ asked, answer q.task q.state = q.outcome config) →
      x answer s = y s) ∧
    ∀ e t, y s = .error (.failed e) t →
      (t.calls = s.calls ∧ ¬ e.IsLimit) ∨
        ∃ q ∈ asked, ∃ u, q.outcome config = .error (.failed e) u ∧ u.calls = t.calls

namespace Covered

variable {α β : Type} {config : Config} {p : Job} {s : State}

/-- What makes no calls and refers to no further task. -/
lemma own {y : Eval α} (h : Plain y) : Covered config p (fun _ => y) y s := by
  refine ⟨[], by simp, fun _ _ => rfl, fun e t he => Or.inl ?_⟩
  have hfails := h s e
  rw [he] at hfails
  exact hfails rfl

/-- Only what happens from `s` counts. -/
lemma congr {x x' : (Task → Eval Value) → Eval α} {y y' : Eval α} (hx : Covered config p x y s)
    (h : ∀ answer, x' answer s = x answer s) (h' : y' s = y s) : Covered config p x' y' s := by
  obtain ⟨asked, hinvoked, hsettled, hfails⟩ := hx
  refine ⟨asked, hinvoked, fun answer hanswer => ?_, fun e t he => hfails e t (h'.symm.trans he)⟩
  rw [h, h', hsettled answer hanswer]

/-- A task that `p` invokes. -/
lemma ask {task : Task} {y : Eval Value} (h : p.Invokes config ⟨task, s⟩)
    (hy : task.eval config s = y s) : Covered config p (fun answer => answer task) y s := by
  refine ⟨[⟨task, s⟩], by simpa using h, fun answer hanswer => ?_, fun e t he => Or.inr ?_⟩
  · exact (hanswer ⟨task, s⟩ (List.mem_singleton_self _)).trans hy
  · exact ⟨⟨task, s⟩, List.mem_singleton_self _, t, hy.trans he, rfl⟩

/-- One action behind another. The second starts with the active calls of the first, since these come
back whenever there is a second. -/
lemma bind {names : List String} {x : (Task → Eval Value) → Eval α} {y : Eval α}
    {f : (Task → Eval Value) → α → Eval β} {g : α → Eval β} (hx : Covered config p x y s)
    (heffect : HasEffect names y)
    (hf : ∀ a t, y s = .ok a t → t.calls = s.calls →
      Covered config p (fun answer => f answer a) (g a) t) :
    Covered config p (fun answer => x answer >>= f answer) (y >>= g) s := by
  obtain ⟨asked, hinvoked, hsettled, hfails⟩ := hx
  have hs := heffect s
  cases hy : y s with
  | error i t =>
      refine ⟨asked, hinvoked, fun answer hanswer => ?_, fun e u he => ?_⟩
      · beta_reduce
        rw [bind_apply, bind_apply, hsettled answer hanswer, hy]
      · rw [bind_apply, hy] at he
        cases he
        exact hfails e _ hy
  | ok a t =>
      rw [hy] at hs
      have hcalls : t.calls = s.calls := hs.calls_of_settled
      obtain ⟨asked', hinvoked', hsettled', hfails'⟩ := hf a t hy hcalls
      refine ⟨asked ++ asked', ?_, fun answer hanswer => ?_, fun e u he => ?_⟩
      · intro q hq
        exact (List.mem_append.mp hq).elim (hinvoked q) (hinvoked' q)
      · have hfirst := hsettled answer fun q hq => hanswer q (List.mem_append_left _ hq)
        have hsecond := hsettled' answer fun q hq => hanswer q (List.mem_append_right _ hq)
        beta_reduce
        rw [bind_apply, bind_apply, hfirst, hy]
        exact hsecond
      · rw [bind_apply, hy] at he
        obtain ⟨hown, hlimit⟩ | ⟨q, hq, hfailed⟩ := hfails' e u he
        · exact Or.inl ⟨hown.trans hcalls, hlimit⟩
        · exact Or.inr ⟨q, List.mem_append_right _ hq, hfailed⟩

/-- An action that goes on with no further task. -/
lemma bindOwn {names : List String} {x : (Task → Eval Value) → Eval α} {y : Eval α}
    {g : α → Eval β} (hx : Covered config p x y s) (heffect : HasEffect names y)
    (hg : ∀ a, Plain (g a)) : Covered config p (fun answer => x answer >>= g) (y >>= g) s :=
  hx.bind heffect fun a _ _ _ => own (hg a)

lemma discard {x : (Task → Eval Value) → Eval α} {y : Eval α} (hx : Covered config p x y s) :
    Covered config p (fun answer => Functor.discard (x answer)) (Functor.discard y) s := by
  obtain ⟨asked, hinvoked, hsettled, hfails⟩ := hx
  refine ⟨asked, hinvoked, fun answer hanswer => ?_, fun e t he => hfails e t ?_⟩
  · beta_reduce
    rw [discard_apply, discard_apply, hsettled answer hanswer]
  · rw [discard_apply] at he
    cases hy : y s with
    | ok a u =>
        rw [hy] at he
        cases he
    | error i u =>
        rw [hy] at he
        cases he
        rfl

/-- A frame of its own changes nothing about the calls. -/
lemma withFrame {names : List String} {bindings : Frame} {x : (Task → Eval Value) → Eval α}
    {y : Eval α} (hx : Covered config p x y (s.enterFrame bindings)) (heffect : HasEffect names y) :
    Covered config p (fun answer => withFrame bindings (x answer)) (withFrame bindings y) s := by
  obtain ⟨asked, hinvoked, hsettled, hfails⟩ := hx
  refine ⟨asked, hinvoked, fun answer hanswer => ?_, fun e t he => ?_⟩
  · simp only [RecordLang.withFrame, hsettled answer hanswer]
  · rw [withFrame_apply heffect] at he
    cases hy : y (s.enterFrame bindings) with
    | ok a u =>
        rw [hy] at he
        cases he
    | error i u =>
        rw [hy] at he
        cases he
        exact hfails e u hy

/-- Another scope changes nothing about the calls. -/
lemma withScope {scope : Scope} {x : (Task → Eval Value) → Eval α} {y : Eval α}
    (hx : Covered config p x y { s with scope }) :
    Covered config p (fun answer => withScope scope (x answer)) (withScope scope y) s := by
  obtain ⟨asked, hinvoked, hsettled, hfails⟩ := hx
  refine ⟨asked, hinvoked, fun answer hanswer => ?_, fun e t he => ?_⟩
  · beta_reduce
    rw [withScope_apply, withScope_apply, hsettled answer hanswer]
  · rw [withScope_apply] at he
    cases hy : y { s with scope } with
    | ok a u =>
        rw [hy] at he
        cases he
    | error i u =>
        rw [hy] at he
        cases he
        exact hfails e u hy

/-- A match: the arm that is chosen is the only task. -/
lemma choose {s₀ : State} {v : Value} {arms : List Arm} {span : Span}
    (hcalls : s.calls = s₀.calls)
    (hinvokes : ∀ body bindings, Pattern.first? s.types s.store v arms = .ok (some (body, bindings)) →
      p.Invokes config ⟨.block body, s.enterFrame (.ofList bindings)⟩) :
    Covered config p
      (fun answer => choose v (alternativesOf (fun body => answer (.block body)) arms) span)
      (choose v (alternativesOf (Block.eval (s₀.env config)) arms) span) s := by
  have hsites : ∀ arm ∈ arms, arm.1.sites ⊆ arms.flatMap fun arm => arm.1.sites :=
    fun arm hmem site hsite => List.mem_flatMap.mpr ⟨arm, hmem, hsite⟩
  have hblames := blames_first? s.types s.store v hsites
  have hrule : ∀ block : Block → Eval Value,
      RecordLang.choose v (alternativesOf block arms) span s = _ :=
    fun block => choose_alternativesOf_apply block v arms span s
  rcases hfirst : Pattern.first? s.types s.store v arms with e | _ | ⟨body, bindings⟩
  · have hthrow : Plain (throw e : Run Value) := plain_throw (hblames e hfirst).not_isLimit
    refine (own hthrow.lift).congr (fun answer => ?_) ?_ <;>
      · rw [hrule, hfirst]
        rfl
  · have hthrow : Plain (throw (.fault (.nonExhaustiveMatch (v.text s.store)) (some span)) :
        Run Value) := plain_throw id
    refine (own hthrow.lift).congr (fun answer => ?_) ?_ <;>
      · rw [hrule, hfirst]
        rfl
  · have heffect := Block.eval_effect (s₀.env_effect config) body
    have hbody : Task.eval config (.block body) (s.enterFrame (.ofList bindings))
        = body.eval (s₀.env config) (s.enterFrame (.ofList bindings)) := by
      rw [← State.env_eq hcalls]
      rfl
    have harm := (ask (hinvokes body bindings hfirst) hbody).withFrame heffect
    refine harm.congr (fun answer => ?_) ?_ <;> rw [hrule, hfirst]

end Covered

/-! ### Jobs -/

section

variable {config : Config}

/-- The operands of an expression, from some point on. -/
lemma covered_operands {e : Expr} {s₀ s : State} {done es : List Expr} {vs : List Value}
    (hsplit : e.operands = done ++ es) (hdone : Expr.evalAll (s₀.env config) done s₀ = .ok vs s) :
    Covered config ⟨.expr e, s₀⟩ (fun answer => es.mapM fun operand => answer (.expr operand))
      (Expr.evalAll (s₀.env config) es) s := by
  induction es generalizing done vs s with
  | nil => exact .own (plain_pure [])
  | cons operand rest ih =>
      have henv := s₀.env_effect config
      have hoperand : Task.eval config (.expr operand) s = operand.eval (s₀.env config) s := by
        rw [← State.env_eq (Expr.calls_of_evalAll hdone)]
        rfl
      simp only [List.mapM_cons, Expr.evalAll]
      refine (Covered.ask (.operand hsplit hdone) hoperand).bind (Expr.eval_effect henv operand)
        fun v t hv _ => ?_
      have hrest := ih (by rw [hsplit, List.append_assoc, List.singleton_append])
        (Expr.evalAll_snoc hdone hv)
      exact hrest.bindOwn (Expr.evalAll_effect henv rest) fun _ => plain_pure _

/-- A call in an expression. -/
lemma covered_call {p : Job} {s₀ s : State} {f v : Value} {span : Span}
    (h : p.Invokes config ⟨.call f v span, s⟩) (hcalls : s.calls = s₀.calls) :
    Covered config p (fun answer => answer (.call f v span))
      (liftM ((s₀.env config).call f v span) : Eval Value) s := by
  rw [← State.env_eq hcalls]
  exact .ask h rfl

/-- What an expression does with the values of its operands. -/
lemma covered_finish (e : Expr) {s t : State} {vs : List Value}
    (h : Expr.evalAll (s.env config) e.operands s = .ok vs t) :
    Covered config ⟨.expr e, s⟩
      (fun answer =>
        e.finish (fun f v span => answer (.call f v span)) (fun body => answer (.block body)) vs)
      (e.finish (fun f v span => (s.env config).call f v span) (Block.eval (s.env config)) vs) t := by
  have hcalls : t.calls = s.calls := Expr.calls_of_evalAll h
  have hlength := Expr.length_of_evalAll h
  cases e with
  | identifier name span => exact .own (plain_getName name _).lift
  | typeRef path =>
      exact .own ((plain_resolve path).lift.bind (hasEffect_resolve path).lift fun _ => plain_pure _)
  | literal l span => exact .own (plain_pure _)
  | record fields span => exact .own (plain_of_settled fun _ => rfl)
  | list items span => exact .own (plain_of_settled fun _ => rfl)
  | binary op left right span =>
      obtain ⟨l, r, rfl⟩ := List.length_eq_two.mp hlength
      refine .own (plain_get.bind hasEffect_get fun u => ?_)
      exact (plain_except (blames_binary (List.mem_singleton_self _) u.store op l r)).lift
  | unary op operand span =>
      obtain ⟨v, rfl⟩ := List.length_eq_one_iff.mp hlength
      exact .own (plain_except (blames_unary (List.mem_singleton_self _) op v)).lift
  | call callee argument span =>
      obtain ⟨f, v, rfl⟩ := List.length_eq_two.mp hlength
      exact covered_call (.call h) hcalls
  | callNamed callee arguments span =>
      cases vs with
      | nil => exact absurd hlength (by simp [Expr.operands])
      | cons f vs =>
          have hrecord : Plain (newRecord ((arguments.map Prod.fst).zip vs)) :=
            plain_of_settled fun _ => rfl
          have heffect : HasEffect [] (newRecord ((arguments.map Prod.fst).zip vs)) :=
            hasEffect_newRecord _
          refine (Covered.own hrecord.lift).bind heffect.lift fun v u hv hcalls' => ?_
          refine covered_call (.callNamed h ?_) (hcalls'.trans hcalls)
          rw [lift_apply] at hv
          cases hv
          rfl
  | field base name span =>
      obtain ⟨v, rfl⟩ := List.length_eq_one_iff.mp hlength
      refine .own (plain_get.bind hasEffect_get fun u => ?_)
      exact (plain_except (blames_readField (List.mem_singleton_self _) u.store v name)).lift
  | index base position span =>
      obtain ⟨target, v, rfl⟩ := List.length_eq_two.mp hlength
      refine .own (plain_get.bind hasEffect_get fun u => ?_)
      exact (plain_except (blames_readIndex (List.mem_singleton_self _) u.store target v)).lift
  | select subject arms span =>
      obtain ⟨v, rfl⟩ := List.length_eq_one_iff.mp hlength
      exact .choose hcalls fun body bindings hfirst => .arm h hfirst
  | lambda params body span => exact .own (plain_of_settled fun _ => rfl)

/-- An expression is covered by its operands and by what it does with their values. -/
lemma covered_expr (e : Expr) (s : State) :
    Covered config ⟨.expr e, s⟩ (fun answer => Task.step config answer (.expr e))
      (Task.eval config (.expr e)) s := by
  have henv := s.env_effect config
  have hoperands : Covered config ⟨.expr e, s⟩ _ (Expr.evalAll (s.env config) e.operands) s :=
    covered_operands (List.nil_append _).symm rfl
  refine (hoperands.bind (Expr.evalAll_effect henv e.operands) fun vs t hvs _ =>
    covered_finish e hvs).congr (fun answer => rfl) ?_
  show e.eval (s.env config) s = _
  rw [Expr.eval_eq_finish]

/-- A pure computation that ends well leaves the state as it was. -/
lemma eq_ok_of_liftExcept {α : Type} {x : Except Error α} {a : α} {s t : State}
    (h : (liftM x : Eval α) s = .ok a t) : x = .ok a ∧ t = s := by
  cases x with
  | ok b =>
      cases h
      exact ⟨rfl, rfl⟩
  | error e => cases h

/-- Only a truth value is taken for one. -/
lemma Value.eq_boolean_of_expectBoolean {c : Value} {span : Option Span} {b : Bool}
    (h : c.expectBoolean span = .ok b) : c = .boolean b := by
  cases c with
  | boolean b' =>
      cases h
      rfl
  | _ => cases h

/-- What a statement does with the value of its operand. -/
lemma covered_statementFinish (st : Statement) {s t : State} {v : Value}
    (h : Expr.evalOption (s.env config) st.operand? s = .ok v t) (hcalls : t.calls = s.calls) :
    Covered config ⟨.statement st, s⟩
      (fun answer => st.finish config.redefinition (fun body => answer (.block body)) v)
      (st.finish config.redefinition (Block.eval (s.env config)) v) t := by
  cases st with
  | const name value span => exact .own (plain_define _ name v span).lift
  | assign name value span => exact .own (plain_assign name v _).lift
  | classDef decl =>
      have hclass : Plain (make (·.newClass decl none)) := plain_of_settled fun _ => rfl
      simp only [Statement.finish]
      refine .own (hclass.lift.bind (hasEffect_newClass decl none).lift fun c => ?_)
      exact (plain_define _ decl.name _ decl.span).lift.bindSettled fun _ _ => rfl
  | groupDef decl =>
      have hgroup : Plain (make (·.newGroup decl)) := plain_of_settled fun _ => rfl
      simp only [Statement.finish]
      refine .own (hgroup.lift.bind (hasEffect_newGroup decl).lift fun g => ?_)
      exact (plain_define _ decl.name _ decl.span).lift.bindSettled fun _ _ => rfl
  | function name arms span =>
      have hfunction : Plain (newFunction name arms) := plain_of_settled fun _ => rfl
      simp only [Statement.finish]
      refine .own (hfunction.lift.bind (hasEffect_newFunction name arms).lift fun f => ?_)
      exact (plain_define _ name f span).lift
  | leave value span => exact .own (plain_returned v)
  | branch condition yes no span =>
      have hboolean : Plain (liftM (v.expectBoolean (some condition.span)) : Eval Bool) :=
        (plain_except (blames_expectBoolean (List.mem_singleton_self _) v)).lift
      have heffect : HasEffect [] (liftM (v.expectBoolean (some condition.span)) : Eval Bool) :=
        hasEffect_liftExcept _
      refine (Covered.own hboolean).bind heffect fun b u hb _ => ?_
      obtain ⟨hboolean, rfl⟩ := eq_ok_of_liftExcept hb
      obtain rfl := Value.eq_boolean_of_expectBoolean hboolean
      dsimp only
      cases hbody : (if b then some yes else no) with
      | none => exact .own (plain_pure ())
      | some body =>
          have hanswer : Task.eval config (.block body) (u.enterFrame .empty)
              = body.eval (s.env config) (u.enterFrame .empty) := by
            rw [← State.env_eq hcalls]
            rfl
          have hblock := Block.eval_effect (s.env_effect config) body
          exact ((Covered.ask (.branch h hbody) hanswer).withFrame hblock).discard
  | log value span => exact .own (plain_modify _)
  | logType path span =>
      exact .own ((plain_resolve path).lift.bind (hasEffect_resolve path).lift fun _ => plain_modify _)
  | expression value span => exact .own (plain_pure ())

/-- A statement is covered by its operand and by what it does with the value. -/
lemma covered_statement (st : Statement) (s : State) :
    Covered config ⟨.statement st, s⟩ (fun answer => Task.step config answer (.statement st))
      (Task.eval config (.statement st)) s := by
  have henv := s.env_effect config
  have hoperand : Covered config ⟨.statement st, s⟩
      (fun answer => st.operand?.elim (pure Value.nil) fun e => answer (.expr e))
      (Expr.evalOption (s.env config) st.operand?) s := by
    cases h : st.operand? with
    | none => exact .own (plain_pure _)
    | some e => exact .ask (.statementOperand h) rfl
  have heffect := Expr.evalOption_effect henv st.operand?
  have hexec := hoperand.bind heffect fun v t hv hcalls => covered_statementFinish st hv hcalls
  have hrule : st.exec (s.env config) = Expr.evalOption (s.env config) st.operand? >>= fun v =>
      st.finish config.redefinition (Block.eval (s.env config)) v := Statement.exec_eq_finish _ st
  rw [← hrule] at hexec
  refine (hexec.bindOwn (Statement.exec_effect henv st) fun _ => plain_pure Value.nil).congr
    (fun answer => ?_) rfl
  rw [bind_assoc, Task.step]
  cases st.operand? <;> rfl

/-- Evaluating for the effect only. -/
lemma discard_bind_pure (x : Eval Unit) (v : Value) :
    Functor.discard (x >>= fun _ => pure v) = x := by
  funext s
  rw [discard_apply, bind_apply]
  cases x s <;> rfl

/-- The statements of a list, from some point on. -/
lemma covered_execAll {sts done rest : List Statement} {s₀ s : State} (hsplit : sts = done ++ rest)
    (hdone : Statement.execAll (s₀.env config) done s₀ = .ok () s) :
    Covered config ⟨.statements sts, s₀⟩
      (fun answer => rest.forM fun st => Functor.discard (answer (.statement st)))
      (Statement.execAll (s₀.env config) rest) s := by
  induction rest generalizing done s with
  | nil => exact .own (plain_pure ())
  | cons st rest ih =>
      have henv := s₀.env_effect config
      have hst : Task.eval config (.statement st) s
          = (st.exec (s₀.env config) >>= fun _ => pure Value.nil) s := by
        rw [← State.env_eq (Statement.calls_of_execAll hdone)]
        rfl
      have hinvokes : Job.Invokes config ⟨.statements sts, s₀⟩ ⟨.statement st, s⟩ :=
        .statement hsplit hdone
      have hfirst := (Covered.ask hinvokes hst).discard
      rw [discard_bind_pure] at hfirst
      refine hfirst.bind (Statement.exec_effect henv st) fun _ t ht _ => ?_
      exact ih (by rw [hsplit, List.append_assoc, List.singleton_append])
        (Statement.execAll_snoc hdone ht)

/-- Statements are covered by themselves, one after the other. -/
lemma covered_statements (sts : List Statement) (s : State) :
    Covered config ⟨.statements sts, s⟩ (fun answer => Task.step config answer (.statements sts))
      (Task.eval config (.statements sts)) s := by
  have henv := s.env_effect config
  have hall : Covered config ⟨.statements sts, s⟩ _ (Statement.execAll (s.env config) sts) s :=
    covered_execAll (List.nil_append sts).symm rfl
  exact hall.bindOwn (Statement.execAll_effect henv sts) fun _ => plain_pure Value.nil

/-- A block is covered by its statements and its last expression. -/
lemma covered_block (b : Block) (s : State) :
    Covered config ⟨.block b, s⟩ (fun answer => Task.step config answer (.block b))
      (Task.eval config (.block b)) s := by
  obtain ⟨sts, tail⟩ := b
  have henv := s.env_effect config
  have hinvokes : Job.Invokes config ⟨.block (.mk sts tail), s⟩ ⟨.statements sts, s⟩ := .body
  have hanswer : Task.eval config (.statements sts) s
      = (Statement.execAll (s.env config) sts >>= fun _ => pure Value.nil) s := rfl
  have hsts := (Covered.ask hinvokes hanswer).discard
  rw [discard_bind_pure] at hsts
  refine hsts.bind (Statement.execAll_effect henv sts) fun _ t ht hcalls => ?_
  cases tail with
  | none => exact .own (plain_pure Value.nil)
  | some e =>
      refine .ask (.tail ht) ?_
      show e.eval (t.env config) t = e.eval (s.env config) t
      rw [State.env_eq hcalls]

end

/-! ### Calls -/

/-- What a call of a value is recorded as; nothing is recorded for a class, and for what cannot be
called. -/
def Value.callee? : Value → Option String
  | .function f => some f.name
  | .lambda _ => some Lambda.callee
  | .native f => some f.name
  | _ => none

/-- The call that a job records, if it is a call that finds a free place. -/
def Job.entered? (config : Config) : Job → Option CallFrame
  | ⟨.call target _ span, s⟩ =>
      if s.calls.length < config.maxCallDepth then
        target.callee?.map fun callee => ⟨callee, some span⟩
      else none
  | _ => none

/-- A job is covered by jobs that it invokes: these answers settle what its rule gives, and it fails
with one of them or by itself. In the latter case the call it records is the only new one, and the
limit is only to blame if no place was free. -/
def Job.IsCovered (config : Config) (p : Job) : Prop :=
  ∃ asked : List Job, (∀ q ∈ asked, p.Invokes config q) ∧
    (∀ answer : Task → Eval Value, (∀ q ∈ asked, answer q.task q.state = q.outcome config) →
      p.task.step config answer p.state = p.outcome config) ∧
    ∀ e t, p.outcome config = .error (.failed e) t →
      (t.calls = (p.entered? config).toList ++ p.state.calls ∧
        (e.IsLimit → config.maxCallDepth ≤ p.state.calls.length)) ∨
        ∃ q ∈ asked, ∃ u, q.outcome config = .error (.failed e) u ∧ u.calls = t.calls

section

variable {config : Config}

/-- A job that records no call. -/
lemma Covered.isCovered {p : Job} (hnone : p.entered? config = none)
    (h : Covered config p (fun answer => p.task.step config answer) (p.task.eval config) p.state) :
    p.IsCovered config := by
  obtain ⟨asked, hinvoked, hsettled, hfails⟩ := h
  refine ⟨asked, hinvoked, hsettled, fun e t he => ?_⟩
  refine (hfails e t he).imp_left fun hown => ⟨?_, fun hlimit => absurd hlimit hown.2⟩
  rw [hnone]
  exact hown.1

/-- A call finds no free place. -/
lemma invoke_full {callee : String} {span : Span} {body : Eval Value} {s : State}
    (h : ¬ s.calls.length < config.maxCallDepth) :
    invoke config callee span body s =
      .error (.failed (.fault (.recursionLimit config.maxCallDepth) (some span))) s := by
  have hpush : pushCall ⟨callee, some span⟩ config.maxCallDepth s
      = .error (.fault (.recursionLimit config.maxCallDepth) (some span)) s := by
    rw [pushCall, get_bind_apply, if_neg h]
    rfl
  rw [invoke, bind_apply, lift_apply, hpush]

/-- A call that finds a free place is recorded. -/
lemma invoke_free {callee : String} {span : Span} {body : Eval Value} {s : State}
    (h : s.calls.length < config.maxCallDepth) :
    invoke config callee span body s =
      (liftM (recordingCall callee span (settle body)) : Eval Value) s := by
  have hpush : pushCall ⟨callee, some span⟩ config.maxCallDepth s
      = .ok () (s.calling ⟨callee, some span⟩) := by
    rw [pushCall, get_bind_apply, if_pos h]
    rfl
  have hrecording : recordingCall callee span (settle body) s
      = (settle body >>= fun v => Functor.discard popCall >>= fun _ => pure v)
          (s.calling ⟨callee, some span⟩) := rfl
  rw [invoke, bind_apply, lift_apply, hpush, lift_apply, hrecording]
  simp only [bind_apply, lift_apply, discard_apply]
  cases settle body (s.calling ⟨callee, some span⟩) with
  | error e t => rfl
  | ok v t =>
      dsimp only
      cases popCall t <;> rfl

/-- What a recorded call does depends on its body from the state with the call on top. -/
lemma recordingCall_congr {callee : String} {span : Span} {x y : Run Value} {s : State}
    (h : x (s.calling ⟨callee, some span⟩) = y (s.calling ⟨callee, some span⟩)) :
    recordingCall callee span x s = recordingCall callee span y s := by
  show (x >>= _) (s.calling ⟨callee, some span⟩) = (y >>= _) (s.calling ⟨callee, some span⟩)
  rw [bind_apply, bind_apply, h]

/-- A failure inside evaluation is an error of the host action. -/
lemma eq_error_of_lift {α : Type} {x : Run α} {s t : State} {e : Error}
    (h : (liftM x : Eval α) s = .error (.failed e) t) : x s = .error e t := by
  rw [lift_apply] at h
  cases hx : x s with
  | ok a u =>
      rw [hx] at h
      cases h
  | error e' u =>
      rw [hx] at h
      cases h
      rfl

/-- An error is a failure of what was settled. -/
lemma eq_failed_of_settle {x : Eval Value} {s t : State} {e : Error} (h : settle x s = .error e t) :
    x s = .error (.failed e) t := by
  rw [settle_apply] at h
  rcases hx : x s with ⟨v, u⟩ | ⟨v | e', u⟩
  · rw [hx] at h
    cases h
  · rw [hx] at h
    cases h
  · rw [hx] at h
    cases h
    rfl

/-- A recorded call fails with its body. -/
lemma eq_error_of_recordingCall {callee : String} {span : Span} {x : Run Value} {s t : State}
    {e : Error} (heffect : HasEffect [] x) (h : recordingCall callee span x s = .error e t) :
    x (s.calling ⟨callee, some span⟩) = .error e t := by
  rw [recordingCall_apply heffect] at h
  show x { s with calls := ⟨callee, some span⟩ :: s.calls } = _
  cases hx : x { s with calls := ⟨callee, some span⟩ :: s.calls } with
  | ok v u =>
      rw [hx] at h
      cases h
  | error e' u =>
      rw [hx] at h
      exact h

/-- A recorded call is covered by what covers its body, evaluated with the call on top. -/
lemma Covered.isCovered_of_invoke {p : Job} {callee : String} {span : Span}
    {x : (Task → Eval Value) → Eval Value} {y : Eval Value}
    (hentered : p.entered? config = some ⟨callee, some span⟩)
    (hroom : p.state.calls.length < config.maxCallDepth) (heffect : HasEffect [] y)
    (hstep : ∀ answer, p.task.step config answer = invoke config callee span (x answer))
    (heval : p.outcome config = (liftM (recordingCall callee span (settle y)) : Eval Value) p.state)
    (h : Covered config p x y (p.state.calling ⟨callee, some span⟩)) : p.IsCovered config := by
  obtain ⟨asked, hinvoked, hsettled, hfails⟩ := h
  refine ⟨asked, hinvoked, fun answer hanswer => ?_, fun e t he => ?_⟩
  · have hbody : settle (x answer) (p.state.calling ⟨callee, some span⟩)
        = settle y (p.state.calling ⟨callee, some span⟩) := by
      rw [settle_apply, settle_apply, hsettled answer hanswer]
    rw [hstep, heval, invoke_free hroom, lift_apply, lift_apply, recordingCall_congr hbody]
  · rw [hentered]
    have hrecorded := eq_error_of_lift (heval.symm.trans he)
    have hbody := eq_failed_of_settle (eq_error_of_recordingCall heffect.settle hrecorded)
    exact (hfails e t hbody).imp_left fun hown => ⟨hown.1, fun hlimit => absurd hlimit hown.2⟩

/-- A call of a value whose calls are recorded: it finds no free place, or its body is evaluated with
one place less. -/
lemma isCovered_recorded {target argument : Value} {span : Span} {s : State} {callee : String}
    {x : (Task → Eval Value) → Eval Value} {y : Env → Eval Value}
    (hcallee : target.callee? = some callee)
    (hstep : ∀ answer, Task.step config answer (.call target argument span)
      = invoke config callee span (x answer))
    (hfull : callWithin config 0 target argument span
      = throw (.fault (.recursionLimit config.maxCallDepth) (some span)))
    (hfree : ∀ room, callWithin config (room + 1) target argument span
      = recordingCall callee span (settle (y (config.env room))))
    (heffect : ∀ env : Env, env.CallsHaveEffect → HasEffect [] (y env))
    (hbody : s.calls.length < config.maxCallDepth →
      Covered config ⟨.call target argument span, s⟩ x
        (y ((s.calling ⟨callee, some span⟩).env config)) (s.calling ⟨callee, some span⟩)) :
    Job.IsCovered config ⟨.call target argument span, s⟩ := by
  have houtcome : Job.outcome config ⟨.call target argument span, s⟩
      = (liftM (callWithin config (s.room config) target argument span) : Eval Value) s := rfl
  by_cases hroom : s.calls.length < config.maxCallDepth
  · refine (hbody hroom).isCovered_of_invoke ?_ hroom (heffect _ (State.env_effect config _)) hstep ?_
    · rw [Job.entered?, if_pos hroom, hcallee]
      rfl
    · rw [houtcome, State.room_eq_succ ⟨callee, some span⟩ hroom, hfree]
      rfl
  · rw [State.room_eq_zero hroom, hfull] at houtcome
    refine ⟨[], by simp, fun answer _ => ?_, fun e t he => Or.inl ⟨?_, fun _ =>
      Nat.le_of_not_lt hroom⟩⟩
    · rw [hstep, invoke_full hroom, houtcome]
      rfl
    · rw [houtcome] at he
      cases he
      rw [Job.entered?, if_neg hroom]
      rfl

/-- Binding parameters leaves the state as it was. -/
lemma Lambda.eq_ok_of_bindParams {f : Lambda} {argument : Value} {span : Span} {s t : State}
    {params : Frame} (h : (liftM (f.bindParams argument span) : Eval Frame) s = .ok params t) :
    f.bindParams argument span s = .ok params s ∧ t = s := by
  cases argument with
  | record r =>
      have hrule : f.bindParams (.record r) span s
          = ((liftM (f.params.check s.types s.store (s.store.record r) "function argument"
              (some span)) : Run Unit) >>= fun _ => pure (s.store.record r)) s := rfl
      rw [lift_apply, hrule, bind_apply] at h
      rw [hrule, bind_apply]
      cases hcheck : f.params.check s.types s.store (s.store.record r) "function argument"
        (some span) with
      | ok u =>
          rw [hcheck] at h
          cases h
          exact ⟨rfl, rfl⟩
      | error e =>
          rw [hcheck] at h
          cases h
  | _ => cases h

/-- A call is covered by the body that it runs. -/
lemma isCovered_call (target argument : Value) (span : Span) (s : State) :
    Job.IsCovered config ⟨.call target argument span, s⟩ := by
  have hunrecorded : target.callee? = none →
      Job.entered? config ⟨.call target argument span, s⟩ = none := by
    intro hcallee
    rw [Job.entered?, hcallee]
    exact ite_self none
  have hthrow : Plain (throw (.fault (.notCallable target.typeName) (some span)) : Run Value) :=
    plain_throw id
  cases target with
  | function f =>
      refine isCovered_recorded (y := fun env => f.runWith (Block.eval env) argument span) rfl
        (fun _ => rfl) rfl (fun room => callWithin_function config room argument span f)
        (fun env henv => f.runWith_effect henv) fun hroom => ?_
      exact .withScope (.choose rfl fun body bindings hfirst => .function hroom hfirst)
  | lambda f =>
      refine isCovered_recorded (y := fun env => f.runWith (Block.eval env) argument span) rfl
        (fun _ => rfl) rfl (fun room => callWithin_lambda config room argument span f)
        (fun env henv => f.runWith_effect henv) fun hroom => ?_
      have hparams : HasEffect [] (f.bindParams argument span) := hasEffect_bindParams f argument span
      refine (Covered.own (plain_bindParams f argument span).lift).bind hparams.lift
        fun params t ht _ => ?_
      obtain ⟨hbound, rfl⟩ := f.eq_ok_of_bindParams ht
      have hbody := Block.eval_effect
        (State.env_effect config (s.calling ⟨Lambda.callee, some span⟩)) f.body
      exact .withScope (.withFrame (.ask (.lambda hroom hbound) rfl) hbody)
  | native f =>
      refine isCovered_recorded (y := fun _ => liftM (f.call argument span)) rfl
        (fun _ => rfl) rfl (fun room => callWithin_native config room argument span f)
        (fun _ _ => (hasEffect_native f argument _).lift) fun _ => ?_
      exact .own (plain_native f argument span).lift
  | ofClass c =>
      refine Covered.isCovered (hunrecorded rfl) ?_
      refine (Covered.own (plain_construct c argument span).lift).congr (fun answer => rfl) ?_
      show (liftM (callWithin config (s.room config) _ argument span) : Eval Value) s = _
      cases s.room config <;> rfl
  | _ =>
      refine Covered.isCovered (hunrecorded rfl) ?_
      refine (Covered.own hthrow.lift).congr (fun answer => rfl) ?_
      show (liftM (callWithin config (s.room config) _ argument span) : Eval Value) s = _
      cases s.room config <;> rfl

end

/-- **Coverage.** Every job is covered by the jobs that it invokes. -/
theorem Job.isCovered (config : Config) (p : Job) : p.IsCovered config := by
  obtain ⟨task, s⟩ := p
  cases task with
  | expr e => exact (covered_expr e s).isCovered rfl
  | statement st => exact (covered_statement st s).isCovered rfl
  | statements sts => exact (covered_statements sts s).isCovered rfl
  | block b => exact (covered_block b s).isCovered rfl
  | call target argument span => exact isCovered_call target argument span s

end RecordLang
