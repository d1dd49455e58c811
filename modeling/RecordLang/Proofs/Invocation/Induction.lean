import RecordLang.Proofs.Termination

/-!
Induction over the rules of evaluation.

Since following the rules comes to an end, a property of outcomes that one use of the rules passes on
from all further tasks to the task at hand is a property of all of evaluation. One use of the rules is
about a task and what comes up directly: the parts of the text at hand, which are evaluated in the same
frame, blocks inside it, which get frames of their own, and the bodies of functions.

* `Task.Part`, `Task.Inner`, `Task.Body`: the pieces of text that belong to a piece of text.
* `Job.outcome_of_step`: induction over the rules.
-/

namespace RecordLang

/-! ### Pieces of text -/

/-- The second piece of text is part of the first and is evaluated in the same frame. -/
inductive Task.Part : Task → Task → Prop where
  | operand {e operand : Expr} : operand ∈ e.operands → Part (.expr e) (.expr operand)
  | statementOperand {st : Statement} {e : Expr} :
      st.operand? = some e → Part (.statement st) (.expr e)
  | statement {sts : List Statement} {st : Statement} :
      st ∈ sts → Part (.statements sts) (.statement st)
  | body {sts : List Statement} {tail : Option Expr} :
      Part (.block (.mk sts tail)) (.statements sts)
  | tail {sts : List Statement} {e : Expr} : Part (.block (.mk sts (some e))) (.expr e)

/-- The block is part of the text and is run there in a frame of its own. -/
inductive Task.Inner : Task → Block → Prop where
  | arm {subject : Expr} {arms : List Arm} {span : Span} {arm : Arm} :
      arm ∈ arms → Inner (.expr (.select subject arms span)) arm.2
  | branch {condition : Expr} {yes body : Block} {no : Option Block} {span : Span} :
      body = yes ∨ no = some body → Inner (.statement (.branch condition yes no span)) body

/-- The block is the body of a function that the text defines. It is not run there. -/
inductive Task.Body : Task → Block → Prop where
  | lambda {params : List (String × Option TypeExpr)} {body : Block} {span : Span} :
      Body (.expr (.lambda params body span)) body
  | function {name : String} {arms : List Arm} {span : Span} {arm : Arm} :
      arm ∈ arms → Body (.statement (.function name arms span)) arm.2

/-! ### Induction -/

/-- The rule for a statement: the operand, if there is one, then the rest. -/
lemma Task.step_statement (config : Config) (answer : Task → Eval Value) (st : Statement) :
    Task.step config answer (.statement st) = do
      let v ← st.operand?.elim (pure Value.nil) fun e => answer (.expr e)
      st.finish config.redefinition (fun body => answer (.block body)) v
      return Value.nil := by
  rw [Task.step]
  cases st.operand? <;> rfl

/-- **Induction over the rules.** A property of jobs and outcomes holds of all of evaluation if it holds
of what stands in for evaluation at some depth, and passes from all further tasks to the task at hand. -/
theorem Job.outcome_of_step (config : Config)
    {P : Job → EStateM.Result Interrupt State Value → Prop} (bottom : Task → Eval Value)
    (hbottom : ∀ p : Job, P p (bottom p.task p.state))
    (hstep : ∀ answer : Task → Eval Value, (∀ p : Job, P p (answer p.task p.state)) →
      ∀ p : Job, P p (p.task.step config answer p.state))
    (p : Job) : P p (p.outcome config) := by
  have hunfolded : ∀ n, ∀ q : Job, P q (unfolded config bottom n q.task q.state) := by
    intro n
    induction n with
    | zero => exact hbottom
    | succ n ih => exact hstep (unfolded config bottom n) ih
  obtain ⟨depth, hdepth⟩ : ∃ depth, p.IsSettledBy config depth := p.exists_isSettledBy
  rw [← hdepth depth le_rfl bottom]
  exact hunfolded depth p

end RecordLang
