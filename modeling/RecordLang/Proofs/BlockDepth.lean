import RecordLang.Proofs.Regime.Evaluation

/-!
The scope is as deep as the text.

A piece of text has a depth: the number of blocks around it in the program. Calls replace the whole
scope by one that was captured elsewhere, and functions leave the blocks in which they are defined; even
so, text of depth `k` is always evaluated in a scope of `k + 1` frames, and a function defined at
depth `k` has captured `k + 1` frames. So the scope is never deeper than the programs allow, however
deep the calls are.

* `Task.OccursAt`: a piece of text stands in one of some programs, at a depth.
* `Expr.nesting`, `Block.nesting`, `Statement.nesting`: how deep blocks are nested in a piece of text.
* `Value.CapturesAtDepth`: a function has captured one frame more than blocks are around its definition.
* `blockDepths`: the regime in which this is so.
* `scope_depth_eq_block_depth`: the main statement.
-/

namespace RecordLang

/-! ### Depth -/

/-- A piece of text stands in one of the programs, inside of so many blocks. A block is one level deeper
than the text to which it belongs. -/
inductive Task.OccursAt (programs : List Program) : Task → Nat → Prop where
  | program {program : Program} :
      program ∈ programs → OccursAt programs (.statements program) 0
  | part {task part : Task} {k : Nat} :
      OccursAt programs task k → task.Part part → OccursAt programs part k
  | inner {task : Task} {body : Block} {k : Nat} :
      OccursAt programs task k → task.Inner body → OccursAt programs (.block body) (k + 1)
  | body {task : Task} {body : Block} {k : Nat} :
      OccursAt programs task k → task.Body body → OccursAt programs (.block body) (k + 1)

mutual

/-- How deep blocks are nested in an expression. -/
def Expr.nesting : Expr → Nat
  | .identifier .. | .typeRef _ | .literal .. => 0
  | .record fields _ => Expr.fieldsNesting fields
  | .list items _ => Expr.nestingAll items
  | .binary _ left right _ => max left.nesting right.nesting
  | .unary _ operand _ => operand.nesting
  | .call callee argument _ => max callee.nesting argument.nesting
  | .callNamed callee arguments _ => max callee.nesting (Expr.fieldsNesting arguments)
  | .field base _ _ => base.nesting
  | .index base position _ => max base.nesting position.nesting
  | .select subject arms _ => max subject.nesting (Block.armsNesting arms)
  | .lambda _ body _ => body.nesting + 1

/-- How deep blocks are nested in expressions. -/
def Expr.nestingAll : List Expr → Nat
  | [] => 0
  | e :: rest => max e.nesting (Expr.nestingAll rest)

/-- How deep blocks are nested in named expressions. -/
def Expr.fieldsNesting : List (String × Expr) → Nat
  | [] => 0
  | (_, e) :: rest => max e.nesting (Expr.fieldsNesting rest)

/-- How deep blocks are nested in an optional expression. -/
def Expr.optionNesting : Option Expr → Nat
  | none => 0
  | some e => e.nesting

/-- How deep the blocks of arms are nested, these blocks included. -/
def Block.armsNesting : List (Expr × Block) → Nat
  | [] => 0
  | (_, body) :: rest => max (body.nesting + 1) (Block.armsNesting rest)

/-- How deep blocks are nested in a block, not counting itself. -/
def Block.nesting : Block → Nat
  | .mk statements tail => max (Statement.nestingAll statements) (Expr.optionNesting tail)

/-- How deep an optional block is nested, the block included. -/
def Block.optionNesting : Option Block → Nat
  | none => 0
  | some body => body.nesting + 1

/-- How deep blocks are nested in a statement. -/
def Statement.nesting : Statement → Nat
  | .const _ value _ | .assign _ value _ | .log value _ | .expression value _ => value.nesting
  | .classDef _ | .groupDef _ | .logType .. => 0
  | .function _ arms _ => Block.armsNesting arms
  | .leave value _ => Expr.optionNesting value
  | .branch condition yes no _ =>
      max condition.nesting (max (yes.nesting + 1) (Block.optionNesting no))

/-- How deep blocks are nested in statements, so in a program. -/
def Statement.nestingAll : List Statement → Nat
  | [] => 0
  | st :: rest => max st.nesting (Statement.nestingAll rest)

end

/-- How deep blocks are nested in the text of a task. -/
def Task.nesting : Task → Nat
  | .expr e => e.nesting
  | .statement st => st.nesting
  | .statements sts => Statement.nestingAll sts
  | .block b => b.nesting
  | .call .. => 0

lemma Expr.nesting_le_nestingAll {es : List Expr} {e : Expr} (h : e ∈ es) :
    e.nesting ≤ Expr.nestingAll es := by
  induction es with
  | nil => exact absurd h List.not_mem_nil
  | cons e' rest ih =>
      rw [Expr.nestingAll]
      obtain rfl | hmem := List.mem_cons.mp h
      · exact le_max_left _ _
      · exact le_max_of_le_right (ih hmem)

lemma Expr.fieldsNesting_eq (fields : List (String × Expr)) :
    Expr.fieldsNesting fields = Expr.nestingAll (fields.map Prod.snd) := by
  induction fields with
  | nil => rfl
  | cons field rest ih =>
      obtain ⟨name, e⟩ := field
      rw [Expr.fieldsNesting, ih, List.map_cons, Expr.nestingAll]

lemma Block.nesting_lt_armsNesting {arms : List Arm} {arm : Arm} (h : arm ∈ arms) :
    arm.2.nesting + 1 ≤ Block.armsNesting arms := by
  induction arms with
  | nil => exact absurd h List.not_mem_nil
  | cons arm' rest ih =>
      obtain ⟨pattern, body⟩ := arm'
      rw [Block.armsNesting]
      obtain rfl | hmem := List.mem_cons.mp h
      · exact le_max_left _ _
      · exact le_max_of_le_right (ih hmem)

lemma Statement.nesting_le_nestingAll {sts : List Statement} {st : Statement} (h : st ∈ sts) :
    st.nesting ≤ Statement.nestingAll sts := by
  induction sts with
  | nil => exact absurd h List.not_mem_nil
  | cons st' rest ih =>
      rw [Statement.nestingAll]
      obtain rfl | hmem := List.mem_cons.mp h
      · exact le_max_left _ _
      · exact le_max_of_le_right (ih hmem)

/-- The operands of an expression are nested no deeper than the expression. -/
lemma Expr.nestingAll_operands_le (e : Expr) : Expr.nestingAll e.operands ≤ e.nesting := by
  cases e <;> simp [Expr.operands, Expr.nesting, Expr.nestingAll, Expr.fieldsNesting_eq]

/-- Blocks in a part of a text are blocks in the text. -/
lemma Task.Part.nesting_le {task part : Task} (h : task.Part part) : part.nesting ≤ task.nesting := by
  cases h with
  | operand hmem => exact (Expr.nesting_le_nestingAll hmem).trans (Expr.nestingAll_operands_le _)
  | @statementOperand st e hoperand =>
      cases st <;> simp_all [Task.nesting, Statement.nesting, Statement.operand?, Expr.optionNesting]
  | statement hmem => exact Statement.nesting_le_nestingAll hmem
  | body => exact le_max_left _ _
  | tail => exact le_max_right _ _

/-- A block inside of a text is one level of the nesting there. -/
lemma Task.Inner.nesting_lt {task : Task} {body : Block} (h : task.Inner body) :
    body.nesting + 1 ≤ task.nesting := by
  cases h with
  | arm hmem => exact le_max_of_le_right (Block.nesting_lt_armsNesting hmem)
  | branch hbody =>
      obtain rfl | rfl := hbody
      · exact le_max_of_le_right (le_max_left _ _)
      · exact le_max_of_le_right (le_max_right _ _)

/-- So is the body of a function that the text defines. -/
lemma Task.Body.nesting_lt {task : Task} {body : Block} (h : task.Body body) :
    body.nesting + 1 ≤ task.nesting := by
  cases h with
  | lambda => exact le_rfl
  | function hmem => exact Block.nesting_lt_armsNesting hmem

/-- The depth of a text and the nesting in it are together bounded by the nesting in the programs. -/
lemma Task.OccursAt.add_nesting_le {programs : List Program} {n : Nat}
    (hn : ∀ program ∈ programs, Statement.nestingAll program ≤ n) {task : Task} {k : Nat}
    (h : task.OccursAt programs k) : k + task.nesting ≤ n := by
  induction h with
  | @program program hmem =>
      have hle : Task.nesting (.statements program) ≤ n := hn program hmem
      omega
  | part _ hpart ih =>
      have hle := hpart.nesting_le
      omega
  | @inner task body k _ hinner ih =>
      have hlt := hinner.nesting_lt
      have hbody : Task.nesting (.block body) = body.nesting := rfl
      omega
  | @body task body k _ hbody ih =>
      have hlt := hbody.nesting_lt
      have hblock : Task.nesting (.block body) = body.nesting := rfl
      omega

/-! ### The regime -/

/-- If the value is a function, it has captured as many frames as blocks are around an occurrence of its
definition, and one more. -/
def Value.CapturesAtDepth (programs : List Program) : Value → Prop
  | .function f => ∃ span k,
      Task.OccursAt programs (.statement (.function f.name f.arms span)) k ∧ f.scope.depth = k + 1
  | .lambda f => ∃ params span k, f.params = .ofParams params ∧
      Task.OccursAt programs (.expr (.lambda params f.body span)) k ∧ f.scope.depth = k + 1
  | _ => True

/-- Text is evaluated in a scope with as many frames as blocks are around it, and one more. -/
def blockDepths (programs : List Program) : Regime where
  value := Value.CapturesAtDepth programs
  text scope task := ∃ k, task.OccursAt programs k ∧ scope.depth = k + 1
  types _ _ := True

lemma Scope.depth_push (scope : Scope) (frame : FrameRef) :
    (scope.push frame).depth = scope.depth + 1 := rfl

lemma lawful_blockDepths (programs : List Program) : (blockDepths programs).Lawful where
  value_of_not_capturesScope v h := by
    cases v with
    | function f => cases h
    | lambda f => cases h
    | _ => trivial
  part := by
    rintro scope task part ⟨k, hk, hscope⟩ hpart
    exact ⟨k, hk.part hpart, hscope⟩
  inner := by
    rintro scope task body frame ⟨k, hk, hscope⟩ hinner
    exact ⟨k + 1, hk.inner hinner, by rw [Scope.depth_push, hscope]⟩
  functionValue := by
    rintro scope id name arms span ⟨k, hk, hscope⟩
    exact ⟨span, k, hk, hscope⟩
  lambdaValue := by
    rintro scope id params body span ⟨k, hk, hscope⟩
    exact ⟨params, span, k, rfl, hk, hscope⟩
  functionBody := by
    rintro f frame ⟨span, k, hk, hscope⟩ arm hmem
    exact ⟨k + 1, hk.body (.function hmem), by rw [Scope.depth_push, hscope]⟩
  lambdaBody := by
    rintro f frame ⟨params, span, k, -, hk, hscope⟩
    exact ⟨k + 1, hk.body .lambda, by rw [Scope.depth_push, hscope]⟩
  types_mono _ _ _ _ _ := trivial
  classTypes _ _ _ _ := trivial
  groupTypes _ _ _ _ := trivial

/-! ### Runs -/

/-- The values that a job is about: those that are stored when it starts and when it ends, what it calls
and with what, and what it gives. -/
inductive Job.Involves (config : Config) (q : Job) (v : Value) : Prop where
  | held : q.state.store.Holds v → Involves config q v
  | heldAfter : (finalState (q.outcome config)).store.Holds v → Involves config q v
  | target {argument : Value} {span : Span} : q.task = .call v argument span → Involves config q v
  | argument {target : Value} {span : Span} : q.task = .call target v span → Involves config q v
  | result {t : State} : q.outcome config = .ok v t → Involves config q v
  | returned {t : State} : q.outcome config = .error (.returned v) t → Involves config q v

/-- A job that obeys a lawful regime is about allowed values only. -/
lemma Job.Obeys.value_of_involves {R : Regime} {config : Config} (hR : R.Lawful) {q : Job}
    (hq : q.Obeys R) {v : Value} (h : q.Involves config v) : R.value v := by
  have hkept := hR.kept config hq
  cases h with
  | held hv => exact hq.state.held v hv
  | heldAfter hv => exact (hR.obeys_finalState config hq).held v hv
  | target htask =>
      have hallows := hq.task
      rw [htask] at hallows
      exact hallows.1
  | argument htask =>
      have hallows := hq.task
      rw [htask] at hallows
      exact hallows.2.1
  | result houtcome =>
      rw [houtcome] at hkept
      exact hkept.2.2
  | returned houtcome =>
      rw [houtcome] at hkept
      exact hkept.2.2 v rfl

/-- Some text is evaluated in the scope of every job that obeys a regime: its own, or that of the
caller. -/
lemma Job.Obeys.exists_text {R : Regime} {q : Job} (hq : q.Obeys R) :
    ∃ task, R.text q.state.scope task := by
  have hallows := hq.task
  cases htask : q.task with
  | call target argument span =>
      rw [htask] at hallows
      exact hallows.2.2
  | _ =>
      rw [htask] at hallows
      exact ⟨_, hallows⟩

/-- **The scope is as deep as the text.** Run a program on a fresh interpreter after any others, and
take any piece of evaluation that comes up:

* a piece of text is evaluated in a scope of `k + 1` frames, where `k` is its depth in one of the
  programs; if it stands nowhere else at another depth, `k` is the only one;
* every function that it is about has captured `k + 1` frames, where `k` is the depth of an occurrence
  of its definition;
* if blocks are nested at most `n` deep in the programs, the scope has at most `n + 1` frames, however
  many calls are active. -/
theorem scope_depth_eq_block_depth (config : Config) (before : List Program) (program : Program)
    (q : Job) (h : q.ComesUp config before program) :
    let programs := before ++ [program]
    (q.task.isCall = false →
      (∃ k, q.task.OccursAt programs k ∧ q.state.scope.depth = k + 1) ∧
      ∀ k, (∀ j, q.task.OccursAt programs j → j = k) → q.state.scope.depth = k + 1) ∧
    (∀ v, q.Involves config v → v.CapturesAtDepth programs) ∧
    ∀ n, (∀ p ∈ programs, Statement.nestingAll p ≤ n) → q.state.scope.depth ≤ n + 1 := by
  intro programs
  have hR := lawful_blockDepths programs
  have hq : q.Obeys (blockDepths programs) :=
    h.obeys hR trivial fun p hmem => ⟨0, .program hmem, rfl⟩
  refine ⟨fun htext => ?_, fun v hv => hq.value_of_involves hR hv, fun n hn => ?_⟩
  · have hdepth : ∃ k, q.task.OccursAt programs k ∧ q.state.scope.depth = k + 1 := by
      have hallows := hq.task
      cases htask : q.task with
      | call target argument span =>
          rw [htask] at htext
          cases htext
      | _ =>
          rw [htask] at hallows
          exact hallows
    refine ⟨hdepth, fun k honly => ?_⟩
    obtain ⟨j, hj, hscope⟩ := hdepth
    rw [hscope, honly j hj]
  · obtain ⟨task, k, hk, hscope⟩ := hq.exists_text
    have hle := hk.add_nesting_le hn
    omega

/-- A function gives a lambda, which a first program binds to a name and a second one calls. The lambda
has left the block of the function, and its body still runs in the scope of that block and a frame of
its own: three frames, for two blocks around it. -/
theorem depth_of_escaped_lambda :
    let x : Expr := .identifier "x" default
    let body : Block := .mk [] (some x)
    let first : Program := [.function "make" [(x, .mk [] (some (.lambda [] body default)))] default,
      .const "f" (.call (.identifier "make" default) (.literal .null default) default) default]
    let call : Expr := .callNamed (.identifier "f" default) [] default
    let second : Program := [.expression call default]
    ∃ q : Job, q.ComesUp default [first] second ∧ q.task = .block body ∧ q.state.scope.depth = 3 ∧
      (∃ k, Task.OccursAt [first, second] (.block body) k ∧ q.state.scope.depth = k + 1) ∧
      (∀ v, q.Involves default v → v.CapturesAtDepth [first, second]) ∧
      (∀ p ∈ [first, second], Statement.nestingAll p ≤ 2) ∧ q.state.scope.depth ≤ 2 + 1 := by
  intro x body first call second
  have hcomesUp : ∃ q : Job, q.ComesUp default [first] second ∧ q.task = .block body ∧
      q.state.scope.depth = 3 := by
    have hcall : ∃ q : Job, Job.LeadsTo default ⟨.expr call, (runAll default [first] .initial).2⟩ q ∧
        q.task = .block body ∧ q.state.scope.depth = 3 := by
      revert x
      exact ⟨_, .head (.callNamed rfl rfl) (.single (.lambda (by decide) rfl)), rfl, rfl⟩
    have hsplit : second = [] ++ .expression call default :: [] := rfl
    obtain ⟨q, hq, hrest⟩ := hcall
    exact ⟨q, .head (.statement hsplit rfl) (.head (.statementOperand rfl) hq), hrest⟩
  have hnesting : ∀ p ∈ [first, second], Statement.nestingAll p ≤ 2 := by decide
  obtain ⟨q, hq, htask, hdepth⟩ := hcomesUp
  obtain ⟨htext, hvalues, hbound⟩ := scope_depth_eq_block_depth default [first] second q hq
  obtain ⟨hoccurs, -⟩ := htext (by rw [htask]; rfl)
  rw [htask] at hoccurs
  exact ⟨q, hq, htask, hdepth, hoccurs, hvalues, hnesting, hbound 2 hnesting⟩

end RecordLang
