import RecordLang.Proofs.Invocation.Induction
import RecordLang.Proofs.Results

/-!
The pieces of a text.

The expressions and statements that stand in a text, at any depth and also in the bodies of the
functions that it defines, are its pieces. Patterns are not among them: they are matched, and never
evaluated. What is asked of every piece of a text is asked of all that evaluation can make of it, since
the parts of a text, the blocks inside it and the bodies that it defines have no other pieces.

* `Expr.inside`, `Statement.inside`, `Block.pieces`, `Statement.piecesAll`: the pieces, as lists.
* `Task.names`, `Statement.typeName?`: the names that a piece reads or binds, and the type it defines.
* `Task.Every`, `Value.Every`: all pieces of a text, or of the bodies of a function, have a property.
* `Task.Every.part`, `Task.Every.inner`, `Task.Every.body`: the property passes to what belongs to the
  text.
-/

namespace RecordLang

/-! ### Pieces -/

mutual

/-- The pieces inside an expression, without the expression itself. -/
def Expr.inside : Expr → List Task
  | .identifier .. | .typeRef _ | .literal .. => []
  | .record fields _ => Expr.fieldPieces fields
  | .list items _ => Expr.piecesAll items
  | .binary _ left right _ => .expr left :: left.inside ++ .expr right :: right.inside
  | .unary _ operand _ => .expr operand :: operand.inside
  | .call callee argument _ => .expr callee :: callee.inside ++ .expr argument :: argument.inside
  | .callNamed callee arguments _ => .expr callee :: callee.inside ++ Expr.fieldPieces arguments
  | .field base _ _ => .expr base :: base.inside
  | .index base position _ => .expr base :: base.inside ++ .expr position :: position.inside
  | .select subject arms _ => .expr subject :: subject.inside ++ Block.armPieces arms
  | .lambda _ body _ => body.pieces

/-- The pieces of expressions. -/
def Expr.piecesAll : List Expr → List Task
  | [] => []
  | e :: rest => .expr e :: e.inside ++ Expr.piecesAll rest

/-- The pieces of named expressions. -/
def Expr.fieldPieces : List (String × Expr) → List Task
  | [] => []
  | (_, e) :: rest => .expr e :: e.inside ++ Expr.fieldPieces rest

/-- The pieces of an optional expression. -/
def Expr.optionPieces : Option Expr → List Task
  | none => []
  | some e => .expr e :: e.inside

/-- The pieces of the blocks of arms. The patterns have none. -/
def Block.armPieces : List (Expr × Block) → List Task
  | [] => []
  | (_, body) :: rest => body.pieces ++ Block.armPieces rest

/-- The pieces of a block. -/
def Block.pieces : Block → List Task
  | .mk statements tail => Statement.piecesAll statements ++ Expr.optionPieces tail

/-- The pieces of an optional block. -/
def Block.optionPieces : Option Block → List Task
  | none => []
  | some body => body.pieces

/-- The pieces inside a statement, without the statement itself. -/
def Statement.inside : Statement → List Task
  | .const _ value _ | .assign _ value _ | .log value _ | .expression value _ =>
      .expr value :: value.inside
  | .classDef _ | .groupDef _ | .logType .. => []
  | .function _ arms _ => Block.armPieces arms
  | .leave value _ => Expr.optionPieces value
  | .branch condition yes no _ =>
      .expr condition :: condition.inside ++ (yes.pieces ++ Block.optionPieces no)

/-- The pieces of statements, so of a program. -/
def Statement.piecesAll : List Statement → List Task
  | [] => []
  | st :: rest => .statement st :: st.inside ++ Statement.piecesAll rest

end

/-- The pieces of the text that a task is about. A call is about none. -/
def Task.pieces : Task → List Task
  | .expr e => .expr e :: e.inside
  | .statement st => .statement st :: st.inside
  | .statements sts => Statement.piecesAll sts
  | .block b => b.pieces
  | .call .. => []

/-- The names that a piece itself reads, assigns or defines. -/
def Task.names : Task → List String
  | .expr (.identifier name _) => [name]
  | .statement st => st.target?.toList
  | _ => []

/-- The name of the class or group that a statement defines, if it does. -/
def Statement.typeName? : Statement → Option String
  | .classDef decl => some decl.name
  | .groupDef decl => some decl.name
  | _ => none

/-- The name of the class or group that a piece itself defines, if it does. -/
def Task.typeName? : Task → Option String
  | .statement st => st.typeName?
  | _ => none

/-! ### Pieces of lists -/

lemma Expr.pieces_subset_piecesAll {es : List Expr} {e : Expr} (h : e ∈ es) :
    Task.pieces (.expr e) ⊆ Expr.piecesAll es := by
  induction es with
  | nil => exact absurd h List.not_mem_nil
  | cons e' rest ih =>
      rw [Expr.piecesAll]
      obtain rfl | hmem := List.mem_cons.mp h
      · exact List.subset_append_left _ _
      · exact List.subset_append_of_subset_right _ (ih hmem)

lemma Expr.fieldPieces_eq (fields : List (String × Expr)) :
    Expr.fieldPieces fields = Expr.piecesAll (fields.map Prod.snd) := by
  induction fields with
  | nil => rfl
  | cons field rest ih =>
      obtain ⟨name, e⟩ := field
      rw [Expr.fieldPieces, ih, List.map_cons, Expr.piecesAll]

lemma Block.pieces_subset_armPieces {arms : List Arm} {arm : Arm} (h : arm ∈ arms) :
    arm.2.pieces ⊆ Block.armPieces arms := by
  induction arms with
  | nil => exact absurd h List.not_mem_nil
  | cons arm' rest ih =>
      obtain ⟨pattern, body⟩ := arm'
      rw [Block.armPieces]
      obtain rfl | hmem := List.mem_cons.mp h
      · exact List.subset_append_left _ _
      · exact List.subset_append_of_subset_right _ (ih hmem)

lemma Statement.pieces_subset_piecesAll {sts : List Statement} {st : Statement} (h : st ∈ sts) :
    Task.pieces (.statement st) ⊆ Statement.piecesAll sts := by
  induction sts with
  | nil => exact absurd h List.not_mem_nil
  | cons st' rest ih =>
      rw [Statement.piecesAll]
      obtain rfl | hmem := List.mem_cons.mp h
      · exact List.subset_append_left _ _
      · exact List.subset_append_of_subset_right _ (ih hmem)

/-- The operands of an expression stand inside it. -/
lemma Expr.piecesAll_operands_subset (e : Expr) : Expr.piecesAll e.operands ⊆ e.inside := by
  cases e <;> simp [Expr.operands, Expr.inside, Expr.piecesAll, Expr.fieldPieces_eq]

/-! ### A property of every piece -/

/-- Every piece of the text has the property. -/
def Task.Every (ok : Task → Prop) (task : Task) : Prop :=
  ∀ piece ∈ task.pieces, ok piece

namespace Task.Every

variable {ok : Task → Prop} {task : Task}

/-- A text that is a piece of itself has the property. -/
lemma expr {e : Expr} (h : Task.Every ok (.expr e)) : ok (.expr e) :=
  h _ List.mem_cons_self

lemma statement {st : Statement} (h : Task.Every ok (.statement st)) : ok (.statement st) :=
  h _ List.mem_cons_self

lemma of_subset {other : Task} (h : task.Every ok) (hsub : other.pieces ⊆ task.pieces) :
    other.Every ok :=
  fun piece hpiece => h piece (hsub hpiece)

/-- Parts have no other pieces. -/
lemma part {part : Task} (h : task.Every ok) (hpart : task.Part part) : part.Every ok := by
  refine h.of_subset ?_
  cases hpart with
  | operand hmem =>
      have hoperand := Expr.pieces_subset_piecesAll hmem
      exact List.subset_cons_of_subset _
        (List.Subset.trans hoperand (Expr.piecesAll_operands_subset _))
  | @statementOperand st e hoperand =>
      refine List.subset_cons_of_subset _ ?_
      cases st <;> simp only [Statement.operand?, Option.some.injEq, reduceCtorEq] at hoperand <;>
        subst hoperand <;> simp [Task.pieces, Statement.inside, Expr.optionPieces]
  | statement hmem => exact Statement.pieces_subset_piecesAll hmem
  | body => exact List.subset_append_left _ _
  | tail => exact List.subset_append_right _ _

/-- Blocks that are run inside the text have no other pieces. -/
lemma inner {body : Block} (h : task.Every ok) (hinner : task.Inner body) :
    Task.Every ok (.block body) := by
  refine h.of_subset ?_
  cases hinner with
  | arm hmem =>
      refine List.subset_cons_of_subset _ (List.subset_append_of_subset_right _ ?_)
      exact Block.pieces_subset_armPieces hmem
  | branch hbody =>
      refine List.subset_cons_of_subset _ (List.subset_append_of_subset_right _ ?_)
      obtain rfl | rfl := hbody
      · exact List.subset_append_left _ _
      · exact List.subset_append_right _ _

/-- The bodies of functions that the text defines have no other pieces. -/
lemma body {body : Block} (h : task.Every ok) (hbody : task.Body body) :
    Task.Every ok (.block body) := by
  refine h.of_subset ?_
  cases hbody with
  | lambda => exact List.subset_cons_self _ _
  | function hmem => exact List.subset_cons_of_subset _ (Block.pieces_subset_armPieces hmem)

end Task.Every

/-! ### Functions -/

/-- The scope that a value has captured, if it is a function. -/
def Value.scope? : Value → Option Scope
  | .function f => some f.scope
  | .lambda f => some f.scope
  | _ => none

/-- The blocks that a call of the value can run. -/
def Value.bodies : Value → List Block
  | .function f => f.arms.map Prod.snd
  | .lambda f => [f.body]
  | _ => []

/-- Every piece of the bodies has the property. -/
def Value.Every (ok : Task → Prop) (v : Value) : Prop :=
  ∀ body ∈ v.bodies, Task.Every ok (.block body)

lemma Value.Every.of_bodies_eq_nil {ok : Task → Prop} {v : Value} (h : v.bodies = []) :
    v.Every ok := by
  intro body hbody
  rw [h] at hbody
  exact absurd hbody List.not_mem_nil

/-- Values that refer to nothing have no bodies, nor have classes and groups. -/
lemma Value.Every.of_isAtom {ok : Task → Prop} {v : Value} (h : v.isAtom = true) : v.Every ok := by
  cases v with
  | number x | string text | boolean b | nil | native f => exact .of_bodies_eq_nil rfl
  | _ => cases h

lemma Value.every_toValue {ok : Task → Prop} (entry : TypeEntry) : entry.toValue.Every ok := by
  cases entry <;> exact .of_bodies_eq_nil rfl

end RecordLang
