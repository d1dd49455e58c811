import RecordLang.Proofs.Invocation.Failure
import RecordLang.Proofs.Invocation.Induction

/-!
A `return` stays inside its function.

A `return` travels outwards like an error, through operands, branches and arms, up to the call in whose
body it stands; there it becomes the result of the call. So a piece of text ends in a `return` only if
one stands in it outside of the functions that it defines, whatever it calls.

* `Expr.hasReturn`, `Statement.hasReturn`: a `return` stands in the text, outside of functions defined
  there.
* `NeverReturns`: an action that no `return` cuts short.
* `Task.neverReturns_step`: one use of the rules.
* `Job.LeadsInside`: a job leads to another one without entering a call.
* `return_stays_in_call`: the main statement.
-/

namespace RecordLang

/-! ### Text without a `return` -/

mutual

/-- Whether a `return` stands in an expression, outside of the lambdas in it. What stands in a pattern
does not count, since patterns are not evaluated. -/
def Expr.hasReturn : Expr → Bool
  | .identifier .. | .typeRef _ | .literal .. => false
  | .record fields _ => Expr.fieldsHaveReturn fields
  | .list items _ => Expr.anyHasReturn items
  | .binary _ left right _ => left.hasReturn || right.hasReturn
  | .unary _ operand _ => operand.hasReturn
  | .call callee argument _ => callee.hasReturn || argument.hasReturn
  | .callNamed callee arguments _ => callee.hasReturn || Expr.fieldsHaveReturn arguments
  | .field base _ _ => base.hasReturn
  | .index base position _ => base.hasReturn || position.hasReturn
  | .select subject arms _ => subject.hasReturn || Block.armsHaveReturn arms
  | .lambda .. => false

/-- Whether a `return` stands in one of the expressions. -/
def Expr.anyHasReturn : List Expr → Bool
  | [] => false
  | e :: rest => e.hasReturn || Expr.anyHasReturn rest

/-- Whether a `return` stands in one of the named expressions. -/
def Expr.fieldsHaveReturn : List (String × Expr) → Bool
  | [] => false
  | (_, e) :: rest => e.hasReturn || Expr.fieldsHaveReturn rest

/-- Whether a `return` stands in an optional expression. -/
def Expr.optionHasReturn : Option Expr → Bool
  | none => false
  | some e => e.hasReturn

/-- Whether a `return` stands in the block of one of the arms. -/
def Block.armsHaveReturn : List (Expr × Block) → Bool
  | [] => false
  | (_, body) :: rest => body.hasReturn || Block.armsHaveReturn rest

/-- Whether a `return` stands in a block, outside of the functions defined there. -/
def Block.hasReturn : Block → Bool
  | .mk statements tail => Statement.anyHasReturn statements || Expr.optionHasReturn tail

/-- Whether a `return` stands in an optional block. -/
def Block.optionHasReturn : Option Block → Bool
  | none => false
  | some body => body.hasReturn

/-- Whether a statement is a `return` or one stands in it, outside of the functions defined there. -/
def Statement.hasReturn : Statement → Bool
  | .const _ value _ | .assign _ value _ | .log value _ | .expression value _ => value.hasReturn
  | .classDef _ | .groupDef _ | .function .. | .logType .. => false
  | .leave .. => true
  | .branch condition yes no _ =>
      condition.hasReturn || yes.hasReturn || Block.optionHasReturn no

/-- Whether a `return` stands in one of the statements, outside of the functions defined there. -/
def Statement.anyHasReturn : List Statement → Bool
  | [] => false
  | st :: rest => st.hasReturn || Statement.anyHasReturn rest

end

/-- Whether a `return` stands in the text of a task. A call has none of its own. -/
def Task.hasReturn : Task → Bool
  | .expr e => e.hasReturn
  | .statement st => st.hasReturn
  | .statements sts => Statement.anyHasReturn sts
  | .block b => b.hasReturn
  | .call .. => false

section

lemma Expr.anyHasReturn_eq_false {es : List Expr} :
    Expr.anyHasReturn es = false ↔ ∀ e ∈ es, e.hasReturn = false := by
  induction es with
  | nil => simp [Expr.anyHasReturn]
  | cons e rest ih => rw [Expr.anyHasReturn, Bool.or_eq_false_iff, ih, List.forall_mem_cons]

lemma Expr.fieldsHaveReturn_eq (fields : List (String × Expr)) :
    Expr.fieldsHaveReturn fields = Expr.anyHasReturn (fields.map Prod.snd) := by
  induction fields with
  | nil => rfl
  | cons field rest ih =>
      obtain ⟨name, e⟩ := field
      rw [Expr.fieldsHaveReturn, ih, List.map_cons, Expr.anyHasReturn]

lemma Block.armsHaveReturn_eq_false {arms : List Arm} :
    Block.armsHaveReturn arms = false ↔ ∀ arm ∈ arms, arm.2.hasReturn = false := by
  induction arms with
  | nil => simp [Block.armsHaveReturn]
  | cons arm rest ih =>
      obtain ⟨pattern, body⟩ := arm
      rw [Block.armsHaveReturn, Bool.or_eq_false_iff, ih, List.forall_mem_cons]

lemma Statement.anyHasReturn_eq_false {sts : List Statement} :
    Statement.anyHasReturn sts = false ↔ ∀ st ∈ sts, st.hasReturn = false := by
  induction sts with
  | nil => simp [Statement.anyHasReturn]
  | cons st rest ih => rw [Statement.anyHasReturn, Bool.or_eq_false_iff, ih, List.forall_mem_cons]

/-- A `return` in an operand is one in the expression. -/
lemma Expr.hasReturn_operands {e : Expr} (h : e.hasReturn = false) :
    ∀ operand ∈ e.operands, operand.hasReturn = false := by
  rw [← Expr.anyHasReturn_eq_false]
  cases e <;>
    simp_all [Expr.hasReturn, Expr.operands, Expr.anyHasReturn, Expr.fieldsHaveReturn_eq]

/-- A piece of text without a `return` has no part with one. -/
lemma Task.Part.hasReturn {task part : Task} (h : task.Part part) (htask : task.hasReturn = false) :
    part.hasReturn = false := by
  cases h with
  | operand hmem => exact Expr.hasReturn_operands htask _ hmem
  | @statementOperand st e hoperand =>
      cases st <;> simp_all [Task.hasReturn, Statement.hasReturn, Statement.operand?]
  | statement hmem => exact Statement.anyHasReturn_eq_false.mp htask _ hmem
  | body => exact (Bool.or_eq_false_iff.mp htask).1
  | tail => exact (Bool.or_eq_false_iff.mp htask).2

/-- A piece of text without a `return` has no block inside with one. -/
lemma Task.Inner.hasReturn {task : Task} {body : Block} (h : task.Inner body)
    (htask : task.hasReturn = false) : body.hasReturn = false := by
  cases h with
  | arm hmem => exact Block.armsHaveReturn_eq_false.mp (Bool.or_eq_false_iff.mp htask).2 _ hmem
  | branch hbody =>
      obtain ⟨hyes, hno⟩ := Bool.or_eq_false_iff.mp htask
      obtain rfl | rfl := hbody
      · exact (Bool.or_eq_false_iff.mp hyes).2
      · exact hno

end

/-! ### Actions that never return -/

/-- No `return` cuts the action short. -/
def NeverReturns {α : Type} (x : Eval α) : Prop :=
  ∀ s v t, x s ≠ .error (.returned v) t

section

variable {α β : Type}

lemma neverReturns_pure (a : α) : NeverReturns (pure a : Eval α) := by
  rintro s v t ⟨⟩

lemma neverReturns_modify (f : State → State) : NeverReturns (modify f : Eval Unit) := by
  rintro s v t ⟨⟩

/-- An action of the host fails if it does not end well. -/
lemma neverReturns_lift (x : Run α) : NeverReturns (liftM x : Eval α) := by
  intro s v t h
  rw [lift_apply] at h
  cases hs : x s with
  | ok a u =>
      rw [hs] at h
      cases h
  | error e u =>
      rw [hs] at h
      cases h

lemma neverReturns_liftExcept (x : Except Error α) : NeverReturns (liftM x : Eval α) :=
  neverReturns_lift (liftM x : Run α)

lemma NeverReturns.bind {x : Eval α} {f : α → Eval β} (hx : NeverReturns x)
    (hf : ∀ a, NeverReturns (f a)) : NeverReturns (x >>= f) := by
  intro s v t h
  rw [bind_apply] at h
  cases hs : x s with
  | ok a u =>
      rw [hs] at h
      exact hf a u v t h
  | error i u =>
      rw [hs] at h
      cases h
      exact hx s v t hs

lemma neverReturns_getBind {f : State → Eval β} (hf : ∀ s, NeverReturns (f s)) :
    NeverReturns (get >>= f) :=
  fun s => hf s s

lemma NeverReturns.discard {x : Eval α} (hx : NeverReturns x) :
    NeverReturns (Functor.discard x) := by
  intro s v t h
  rw [discard_apply] at h
  cases hs : x s with
  | ok a u =>
      rw [hs] at h
      cases h
  | error i u =>
      rw [hs] at h
      cases h
      exact hx s v t hs

lemma NeverReturns.withFrame {x : Eval α} (hx : NeverReturns x) (bindings : Frame) :
    NeverReturns (withFrame bindings x) := by
  intro s v t h
  rw [RecordLang.withFrame] at h
  cases hs : x (s.enterFrame bindings) with
  | ok a u =>
      simp only [hs] at h
      cases hleave : leaveFrame u <;> rw [hleave] at h <;> cases h
  | error i u =>
      simp only [hs] at h
      cases hleave : leaveFrame u with
      | ok a u' =>
          rw [hleave] at h
          cases h
          exact hx _ v u hs
      | error e u' =>
          rw [hleave] at h
          cases h

lemma neverReturns_mapM {f : α → Eval β} {as : List α} (h : ∀ a ∈ as, NeverReturns (f a)) :
    NeverReturns (as.mapM f) := by
  induction as with
  | nil =>
      rw [List.mapM_nil]
      exact neverReturns_pure _
  | cons a rest ih =>
      obtain ⟨ha, hrest⟩ := List.forall_mem_cons.mp h
      rw [List.mapM_cons]
      exact ha.bind fun b => (ih hrest).bind fun bs => neverReturns_pure _

lemma neverReturns_forM {f : α → Eval PUnit} {as : List α} (h : ∀ a ∈ as, NeverReturns (f a)) :
    NeverReturns (as.forM f) := by
  induction as with
  | nil => exact neverReturns_pure _
  | cons a rest ih =>
      obtain ⟨ha, hrest⟩ := List.forall_mem_cons.mp h
      exact ha.bind fun _ => ih hrest

end

section

variable {block : Block → Eval Value}

/-- A match runs the block of one arm. -/
lemma neverReturns_choose {arms : List Arm} (h : ∀ arm ∈ arms, NeverReturns (block arm.2)) (v : Value)
    (span : Span) : NeverReturns (choose v (alternativesOf block arms) span) := by
  intro s w t hs
  rw [choose_alternativesOf_apply] at hs
  rcases hfirst : Pattern.first? s.types s.store v arms with e | _ | ⟨body, bindings⟩
  · rw [hfirst] at hs
    cases hs
  · rw [hfirst] at hs
    cases hs
  · rw [hfirst] at hs
    obtain ⟨pattern, hmem, -⟩ := Pattern.exists_of_first? hfirst
    exact (h _ hmem).withFrame _ s w t hs

/-- A recorded call takes the value of a `return`, so it never ends in one. -/
lemma neverReturns_invoke (config : Config) (callee : String) (span : Span) (body : Eval Value) :
    NeverReturns (invoke config callee span body) := by
  refine (neverReturns_lift _).bind fun _ => ?_
  refine (neverReturns_lift _).bind fun v => ?_
  exact (neverReturns_lift _).discard.bind fun _ => neverReturns_pure v

variable {call : Value → Value → Span → Eval Value}

/-- What an expression does with the values of its operands. -/
lemma Expr.neverReturns_finish (hcall : ∀ f v span, NeverReturns (call f v span)) {e : Expr}
    (hblock : ∀ body, Task.Inner (.expr e) body → NeverReturns (block body)) (vs : List Value) :
    NeverReturns (e.finish call block vs) := by
  unfold Expr.finish
  -- one case for each equation of the definition, in its order
  split
  · exact neverReturns_lift _
  · exact (neverReturns_lift _).bind fun _ => neverReturns_pure _
  · exact neverReturns_pure _
  · exact neverReturns_lift _
  · exact neverReturns_lift _
  · exact neverReturns_getBind fun _ => neverReturns_liftExcept _
  · exact neverReturns_liftExcept _
  · exact hcall _ _ _
  · exact (neverReturns_lift _).bind fun v => hcall _ v _
  · exact neverReturns_getBind fun _ => neverReturns_liftExcept _
  · exact neverReturns_getBind fun _ => neverReturns_liftExcept _
  · exact neverReturns_choose (fun arm hmem => hblock arm.2 (.arm hmem)) _ _
  · exact neverReturns_lift _
  · exact neverReturns_pure _

/-- What a statement does with the value of its operand, if it is no `return`. -/
lemma Statement.neverReturns_finish {st : Statement} (hst : st.hasReturn = false)
    (hblock : ∀ body, Task.Inner (.statement st) body → NeverReturns (block body))
    (policy : Redefinition) (v : Value) : NeverReturns (st.finish policy block v) := by
  cases st with
  | const name value span => exact neverReturns_lift _
  | assign name value span => exact neverReturns_lift _
  | classDef decl =>
      exact (neverReturns_lift _).bind fun _ => (neverReturns_lift _).bind fun _ =>
        (neverReturns_lift _).discard
  | groupDef decl =>
      exact (neverReturns_lift _).bind fun _ => (neverReturns_lift _).bind fun _ =>
        (neverReturns_lift _).discard
  | function name arms span => exact (neverReturns_lift _).bind fun _ => neverReturns_lift _
  | leave value span => cases hst
  | branch condition yes no span =>
      refine (neverReturns_liftExcept _).bind fun b => ?_
      cases hbody : (if b then some yes else no) with
      | none => exact neverReturns_pure _
      | some body =>
          have hinner := hblock body (.branch (Block.eq_of_branch hbody))
          exact (hinner.withFrame .empty).discard
  | log value span => exact neverReturns_modify _
  | logType path span => exact (neverReturns_lift _).bind fun _ => neverReturns_modify _
  | expression value span => exact neverReturns_pure _

end

/-! ### Evaluation -/

/-- One use of the rules: text without a `return` never returns, if what it leads to does not. -/
lemma Task.neverReturns_step (config : Config) {answer : Task → Eval Value}
    (hanswer : ∀ task, task.hasReturn = false → NeverReturns (answer task)) {task : Task}
    (htask : task.hasReturn = false) : NeverReturns (task.step config answer) := by
  have hpart : ∀ part, task.Part part → NeverReturns (answer part) :=
    fun part h => hanswer part (h.hasReturn htask)
  have hblock : ∀ body, task.Inner body → NeverReturns (answer (.block body)) :=
    fun body h => hanswer (.block body) (h.hasReturn htask)
  have hcall : ∀ f v span, NeverReturns (answer (.call f v span)) :=
    fun f v span => hanswer (.call f v span) rfl
  cases task with
  | expr e =>
      refine (neverReturns_mapM fun operand hmem => hpart _ (.operand hmem)).bind fun vs => ?_
      exact Expr.neverReturns_finish hcall hblock vs
  | statement st =>
      have hoperand : NeverReturns
          (st.operand?.elim (pure Value.nil) fun e => answer (.expr e)) := by
        cases h : st.operand? with
        | some e => exact hpart _ (.statementOperand h)
        | none => exact neverReturns_pure _
      rw [Task.step_statement]
      refine hoperand.bind fun v => ?_
      exact (Statement.neverReturns_finish htask hblock _ v).bind fun _ => neverReturns_pure _
  | statements sts =>
      have hall := neverReturns_forM fun st hmem => (hpart (.statement st) (.statement hmem)).discard
      exact hall.bind fun _ => neverReturns_pure _
  | block b =>
      obtain ⟨sts, tail⟩ := b
      refine (hpart (.statements sts) .body).discard.bind fun _ => ?_
      cases tail with
      | some e => exact hpart (.expr e) .tail
      | none => exact neverReturns_pure _
  | call target argument span =>
      cases target with
      | function f => exact neverReturns_invoke _ _ _ _
      | lambda f => exact neverReturns_invoke _ _ _ _
      | native f => exact neverReturns_invoke _ _ _ _
      | ofClass c => exact neverReturns_lift _
      | _ => exact neverReturns_lift (throw _ : Run Value)

/-- Text without a `return` never ends in one. -/
theorem Task.neverReturns_eval (config : Config) {task : Task} (htask : task.hasReturn = false) :
    NeverReturns (task.eval config) := by
  intro s
  refine Job.outcome_of_step config
    (P := fun p outcome => p.task.hasReturn = false → ∀ v t, outcome ≠ .error (.returned v) t)
    (fun _ => throw (.failed (.defect .emptyScope))) ?_ ?_ ⟨task, s⟩ htask
  · rintro p - v t ⟨⟩
  · intro answer hanswer p hp
    exact Task.neverReturns_step config (fun task htask s => hanswer ⟨task, s⟩ htask) hp p.state

/-! ### Calls take the value of a `return` -/

/-- The first job leads to the second without entering a call: through operands, branches, arms, blocks
and statements only. -/
def Job.LeadsInside (config : Config) : Job → Job → Prop :=
  Relation.ReflTransGen fun p q => p.task.isCall = false ∧ p.Invokes config q

/-- Whatever cuts short a job cuts short all that led to it inside the same call. -/
lemma Job.LeadsInside.outcome_eq_error {config : Config} {p q : Job} (h : p.LeadsInside config q)
    {i : Interrupt} {u : State} (hq : q.outcome config = .error i u) :
    ∃ t, p.outcome config = .error i t := by
  induction h using Relation.ReflTransGen.head_induction_on with
  | refl => exact ⟨u, hq⟩
  | head hstep _ ih =>
      obtain ⟨htext, hinvokes⟩ := hstep
      obtain ⟨t, ht⟩ := ih
      obtain ⟨t', ht', -⟩ := hinvokes.outcome_eq_error htext ht
      exact ⟨t', ht'⟩

/-- The value that a program reports: what it returned, if it did. -/
def Report.value? : Report → Option Value
  | .returned v => some v
  | _ => none

/-- A program reports a value only if its statements end in a `return`. -/
lemma value?_run_eq_none {config : Config} {program : Program} {s : State}
    (h : ∀ v t, Job.outcome config ⟨.statements program, s⟩ ≠ .error (.returned v) t) :
    (run config program s).1.value? = none := by
  rw [run_eq_ofOutcome]
  rcases hs : Job.outcome config ⟨.statements program, s⟩ with ⟨v, t⟩ | ⟨v | e, t⟩
  · rfl
  · exact absurd hs (h v t)
  · rfl

/-- **A `return` never crosses a call.** With any settings and from any state:

* a piece of text in which no `return` stands, outside of the functions that it defines, never ends in
  a `return`, whatever it calls; nor does a call;
* so a program without a `return` of its own reports no value;
* when a `return` comes up in the body of a call, however deep inside of operands, branches and arms,
  the body ends in that `return`, and the call ends well with just its value, in the scope and with the
  active calls of before. -/
theorem return_stays_in_call (config : Config) :
    (∀ p : Job, p.task.hasReturn = false → ∀ v t, p.outcome config ≠ .error (.returned v) t) ∧
    (∀ (program : Program) (s : State), Statement.anyHasReturn program = false →
      (run config program s).1.value? = none) ∧
    ∀ (p body q : Job) (v : Value) (t : State), p.task.isCall = true → p.Invokes config body →
      body.LeadsInside config q → q.outcome config = .error (.returned v) t →
        ∃ u, body.outcome config = .error (.returned v) u ∧
          p.outcome config = .ok v { u with scope := p.state.scope, calls := p.state.calls } := by
  refine ⟨fun p hp => Task.neverReturns_eval config hp p.state, fun program s hprogram => ?_,
    fun p body q v t hcall hbody hinside hq => ?_⟩
  · have htask : Task.hasReturn (.statements program) = false := hprogram
    exact value?_run_eq_none (Task.neverReturns_eval config htask s)
  · obtain ⟨u, hu⟩ := hinside.outcome_eq_error hq
    refine ⟨u, hu, ?_⟩
    rw [hbody.outcome_eq_afterBody hcall, hu]
    rfl

/-- A function returns its argument from an arm of a match, as an item of a list, in a branch; what
stands behind is not reached. The program that calls it has no `return` of its own. -/
theorem return_in_arm_of_operand :
    let x : Expr := .identifier "x" default
    let word : Expr := .literal (.string "word") default
    let leave : Statement := .leave (some x) default
    let arm : Block := .mk [leave] none
    let item : Expr := .select x [(x, arm)] default
    let items : Expr := .list [word, item] default
    let yes : Block := .mk [] (some items)
    let branch : Statement := .branch (.literal (.boolean true) default) yes none default
    let body : Block := .mk [branch] (some word)
    let program : Program := [.function "f" [(x, body)] default,
      .expression (.call (.identifier "f" default) word default) default]
    let f : MatchFunction := ⟨0, "f", [(x, body)], ⟨[], ⟨0⟩⟩⟩
    let p : Job := ⟨.call (.function f) (.string "v") default, .initial⟩
    let bound : Frame := .ofList [("x", .string "v")]
    let s : State := State.enterFrame
      { State.initial.calling ⟨"f", some default⟩ with scope := ⟨[], ⟨0⟩⟩ } bound
    p.task.isCall = true ∧ p.Invokes default ⟨.block body, s⟩ ∧
      Job.LeadsInside default ⟨.block body, s⟩
        ⟨.statement leave, (s.enterFrame .empty).enterFrame bound⟩ ∧
      (∃ t, p.outcome default = .ok (.string "v") t) ∧ p.task.hasReturn = false ∧
      (∀ v t, p.outcome default ≠ .error (.returned v) t) ∧
      Statement.anyHasReturn program = false ∧
      (run default program .initial).1.value? = none := by
  intro x word leave arm item items yes branch body program f p bound s
  have hbody : p.Invokes default ⟨.block body, s⟩ := .function (by decide) rfl
  have hitems : items.operands = [word] ++ item :: [] := rfl
  have hinside : Job.LeadsInside default ⟨.block body, s⟩
      ⟨.statement leave, (s.enterFrame .empty).enterFrame bound⟩ := by
    refine .head ⟨rfl, .body⟩ ?_
    refine .head ⟨rfl, .statement (List.nil_append [branch]).symm rfl⟩ ?_
    refine .head ⟨rfl, .branch rfl rfl⟩ ?_
    refine .head ⟨rfl, .tail rfl⟩ ?_
    refine .head ⟨rfl, .operand hitems rfl⟩ ?_
    refine .head ⟨rfl, .arm rfl rfl⟩ ?_
    refine .head ⟨rfl, .body⟩ ?_
    exact .single ⟨rfl, .statement (List.nil_append [leave]).symm rfl⟩
  obtain ⟨hnever, hreport, hvalue⟩ := return_stays_in_call default
  obtain ⟨u, -, hp⟩ := hvalue p _ _ (.string "v") _ rfl hbody hinside rfl
  exact ⟨rfl, hbody, hinside, ⟨_, hp⟩, rfl, hnever p rfl, rfl, hreport program .initial rfl⟩

end RecordLang
