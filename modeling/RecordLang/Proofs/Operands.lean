import RecordLang.Proofs.Effect.Evaluation
import RecordLang.Proofs.Sites

/-!
Operands first, then the rest.

Every expression evaluates its operands from left to right and then makes its value of theirs; every
statement does the same with at most one operand. What follows the operands may call a value or run a
block, but evaluates no further part of the expression. So evaluation has two layers: lists of operands,
which are all alike, and one last step for each form.

* `Expr.operands`, `Expr.finish`: the operands of an expression, and what is done with their values.
* `Statement.operand?`, `Statement.finish`: the same for a statement.
* `Expr.eval_eq_finish`, `Statement.exec_eq_finish`: evaluation is the one followed by the other.
* `Expr.finish_effect`, `Statement.finish_effect`: what follows the operands has an effect.
* `Expr.evalAll_append`, `Statement.execAll_append`: lists are evaluated piece by piece.
-/

namespace RecordLang

/-! ### Expressions -/

/-- The parts of an expression that are evaluated before anything else, in order. -/
def Expr.operands : Expr → List Expr
  | .record fields _ => fields.map Prod.snd
  | .list items _ => items
  | .binary _ left right _ => [left, right]
  | .unary _ operand _ => [operand]
  | .call callee argument _ => [callee, argument]
  | .callNamed callee arguments _ => callee :: arguments.map Prod.snd
  | .field base _ _ => [base]
  | .index base position _ => [base, position]
  | .select subject _ _ => [subject]
  | _ => []

/-- The alternatives of a match, each run in a frame of its bindings; how blocks are evaluated is left
open. -/
def alternativesOf (block : Block → Eval Value) (arms : List Arm) :
    List (Expr × (Frame → Eval Value)) :=
  arms.map fun arm => (arm.1, fun bindings => withFrame bindings (block arm.2))

/-- What an expression does with the values of its operands; how values are called and blocks are
evaluated is left open. There are always as many values as operands. -/
def Expr.finish (call : Value → Value → Span → Eval Value) (block : Block → Eval Value) :
    Expr → List Value → Eval Value
  | .identifier name span, _ => getName name (some span)
  | .typeRef path, _ => return (← resolve path).toValue
  | .literal l _, _ => return .ofLiteral l
  | .record fields _, vs => newRecord ((fields.map Prod.fst).zip vs)
  | .list _ _, vs => newList vs
  | .binary op _ _ span, [l, r] => do Operator.binary (← get).store op l r span
  | .unary op _ span, [v] => Operator.unary op v span
  | .call _ _ span, [f, v] => call f v span
  | .callNamed _ arguments span, f :: vs => do
      call f (← newRecord ((arguments.map Prod.fst).zip vs)) span
  | .field _ name span, [v] => do readField (← get).store v name span
  | .index _ _ span, [target, v] => do readIndex (← get).store target v span
  | .select _ arms span, [v] => choose v (alternativesOf block arms) span
  | .lambda params body _, _ => newLambda params body
  | _, _ => return .nil

/-- The values of named expressions are the values of the expressions, with their names. -/
lemma Expr.evalFields_eq (env : Env) (fields : List (String × Expr)) :
    Expr.evalFields env fields = do
      let vs ← Expr.evalAll env (fields.map Prod.snd)
      return (fields.map Prod.fst).zip vs := by
  induction fields with
  | nil => rfl
  | cons field rest ih =>
      obtain ⟨name, e⟩ := field
      simp only [Expr.evalFields, ih, List.map_cons, Expr.evalAll, bind_assoc, pure_bind,
        List.zip_cons_cons]

/-- The arms of a match are alternatives whose blocks are evaluated in the environment. -/
lemma Block.evalArms_eq (env : Env) (arms : List Arm) :
    Block.evalArms env arms = alternativesOf (Block.eval env) arms := by
  induction arms with
  | nil => rfl
  | cons arm rest ih =>
      obtain ⟨pattern, body⟩ := arm
      rw [Block.evalArms, ih, alternativesOf, alternativesOf, List.map_cons]

/-- **Operands first.** An expression evaluates its operands and makes its value of theirs. -/
theorem Expr.eval_eq_finish (env : Env) (e : Expr) :
    e.eval env =
      Expr.evalAll env e.operands >>= fun vs =>
        e.finish (fun f v span => env.call f v span) (Block.eval env) vs := by
  cases e with
  | record fields span =>
      simp only [Expr.eval, Expr.operands, Expr.finish, Expr.evalFields_eq, bind_assoc, pure_bind]
  | callNamed callee arguments span =>
      simp only [Expr.eval, Expr.operands, Expr.finish, Expr.evalAll, Expr.evalFields_eq, bind_assoc,
        pure_bind]
  | select subject arms span =>
      simp only [Expr.eval, Expr.operands, Expr.finish, Expr.evalAll, Block.evalArms_eq, bind_assoc,
        pure_bind]
  | _ => simp only [Expr.eval, Expr.operands, Expr.finish, Expr.evalAll, bind_assoc, pure_bind]

/-- Lists of expressions are evaluated piece by piece. -/
lemma Expr.evalAll_append (env : Env) (es es' : List Expr) :
    Expr.evalAll env (es ++ es') = do
      let vs ← Expr.evalAll env es
      let vs' ← Expr.evalAll env es'
      return vs ++ vs' := by
  induction es with
  | nil => simp only [List.nil_append, Expr.evalAll, pure_bind, bind_pure]
  | cons e rest ih =>
      simp only [List.cons_append, Expr.evalAll, ih, bind_assoc, pure_bind]

/-- One more expression behind those that were evaluated. -/
lemma Expr.evalAll_snoc {env : Env} {es : List Expr} {e : Expr} {s t u : State} {vs : List Value}
    {v : Value} (h : Expr.evalAll env es s = .ok vs t) (he : e.eval env t = .ok v u) :
    Expr.evalAll env (es ++ [e]) s = .ok (vs ++ [v]) u := by
  rw [Expr.evalAll_append, bind_apply, h]
  simp only [Expr.evalAll, bind_apply, he]
  rfl

/-- What an expression does with the values of its operands binds nothing in the innermost frame. -/
lemma Expr.finish_effect {env : Env} (henv : env.CallsHaveEffect) (e : Expr) (vs : List Value) :
    HasEffect [] (e.finish (fun f v span => env.call f v span) (Block.eval env) vs) := by
  unfold Expr.finish
  -- one case for each equation of the definition, in its order
  split
  · exact (hasEffect_getName _ _).lift
  · exact (hasEffect_resolve _).lift.bind fun _ => hasEffect_pure _
  · exact hasEffect_pure _
  · exact (hasEffect_newRecord _).lift
  · exact (hasEffect_newList _).lift
  · exact hasEffect_get.bind fun _ => hasEffect_liftExcept _
  · exact hasEffect_liftExcept _
  · exact (henv _ _ _).lift
  · exact (hasEffect_newRecord _).lift.bind fun v => (henv _ v _).lift
  · exact hasEffect_get.bind fun _ => hasEffect_liftExcept _
  · exact hasEffect_get.bind fun _ => hasEffect_liftExcept _
  · next arms span v =>
      rw [← Block.evalArms_eq]
      exact hasEffect_choose (Block.evalArms_effect henv arms)
  · exact (hasEffect_newLambda _ _).lift
  · exact hasEffect_pure _

/-- There are as many values as expressions. -/
lemma Expr.length_of_evalAll {env : Env} {es : List Expr} {s t : State} {vs : List Value}
    (h : Expr.evalAll env es s = .ok vs t) : vs.length = es.length := by
  induction es generalizing s vs with
  | nil =>
      cases h
      rfl
  | cons e rest ih =>
      rw [Expr.evalAll, bind_apply] at h
      cases he : e.eval env s with
      | error i u =>
          rw [he] at h
          cases h
      | ok v u =>
          rw [he] at h
          dsimp only at h
          rw [bind_apply] at h
          cases hrest : Expr.evalAll env rest u with
          | error i u' =>
              rw [hrest] at h
              cases h
          | ok ws u' =>
              rw [hrest] at h
              cases h
              rw [List.length_cons, List.length_cons, ih hrest]

/-- An operand is smaller than the expression. -/
lemma Expr.sizeOf_lt_of_mem_operands {e operand : Expr} (h : operand ∈ e.operands) :
    sizeOf operand < sizeOf e := by
  have hfield : ∀ fields : List (String × Expr), operand ∈ fields.map Prod.snd →
      sizeOf operand < sizeOf fields := by
    intro fields hmem
    obtain ⟨⟨name, e'⟩, hfield, rfl⟩ := List.mem_map.mp hmem
    have hlt := List.sizeOf_lt_of_mem hfield
    simp only [Prod.mk.sizeOf_spec] at hlt ⊢
    omega
  cases e with
  | record fields span =>
      have hlt := hfield fields h
      simp only [Expr.record.sizeOf_spec]
      omega
  | list items span =>
      have hlt : sizeOf operand < sizeOf items := List.sizeOf_lt_of_mem h
      simp only [Expr.list.sizeOf_spec]
      omega
  | callNamed callee arguments span =>
      simp only [Expr.callNamed.sizeOf_spec]
      obtain rfl | hmem := List.mem_cons.mp h
      · omega
      · have hlt := hfield arguments hmem
        omega
  | binary op left right span | call left right span | index left right span =>
      obtain rfl | hmem := List.mem_cons.mp h
      · simp
        omega
      · obtain rfl := List.mem_singleton.mp hmem
        simp
        omega
  | unary op operand span | field operand name span | select operand arms span =>
      obtain rfl := List.mem_singleton.mp h
      simp
      omega
  | _ => exact absurd h List.not_mem_nil

/-- The sites of an operand are sites of the expression. -/
lemma Expr.sites_subset_of_mem_operands {e operand : Expr} (h : operand ∈ e.operands) :
    operand.sites ⊆ e.sites := by
  have hmem := Expr.sites_subset_sitesAll h
  have hsub : Expr.sitesAll e.operands ⊆ e.sites := by
    cases e with
    | record fields span | callNamed callee fields span =>
        simp only [Expr.operands, Expr.sites, Expr.sitesAll, Expr.fieldSites_eq]
        exact List.subset_cons_self _ _
    | list items span => exact List.subset_cons_self _ _
    | binary op left right span | call left right span | index left right span
    | unary op left span | field left name span =>
        simp only [Expr.operands, Expr.sites, Expr.sitesAll, List.append_nil]
        exact List.subset_cons_self _ _
    | select subject arms span =>
        simp only [Expr.operands, Expr.sites, Expr.sitesAll, List.append_nil]
        exact List.subset_cons_of_subset _ (List.subset_append_left _ _)
    | _ => exact List.nil_subset _
  exact List.Subset.trans hmem hsub

/-! ### Statements -/

/-- The expression that a statement evaluates before anything else, if there is one. -/
def Statement.operand? : Statement → Option Expr
  | .const _ value _ => some value
  | .assign _ value _ => some value
  | .leave value _ => value
  | .branch condition _ _ _ => some condition
  | .log value _ => some value
  | .expression value _ => some value
  | _ => none

/-- What a statement does with the value of its operand, nil if it has none; how blocks are evaluated
is left open. -/
def Statement.finish (policy : Redefinition) (block : Block → Eval Value) :
    Statement → Value → Eval Unit
  | .const name _ span, v => define policy name v span
  | .assign name _ span, v => RecordLang.assign name v (some span)
  | .classDef decl, _ => do
      let c ← make (·.newClass decl none)
      define policy decl.name (.ofClass c) decl.span
      discard (register decl.name (.ofClass c))
  | .groupDef decl, _ => do
      let g ← make (·.newGroup decl)
      define policy decl.name (.ofGroup g) decl.span
      discard (register decl.name (.ofGroup g))
  | .function name arms span, _ => do
      let f ← newFunction name arms
      define policy name f span
  | .leave _ _, v => throw (.returned v)
  | .branch condition yes no _, c => do
      match if ← c.expectBoolean (some condition.span) then some yes else no with
      | some body => discard (withFrame .empty (block body))
      | none => return ()
  | .log _ _, v => modify fun s => s.log [v.text s.store]
  | .logType path _, _ => do
      let entry ← resolve path
      modify (·.log [entry.text])
  | .expression _ _, _ => return ()

/-- **Operand first.** A statement evaluates its operand, if it has one, and does the rest with its
value. -/
theorem Statement.exec_eq_finish (env : Env) (st : Statement) :
    st.exec env =
      Expr.evalOption env st.operand? >>= fun v => st.finish env.policy (Block.eval env) v := by
  cases st with
  | branch condition yes no span =>
      simp only [Statement.exec, Statement.operand?, Statement.finish, Expr.evalOption]
      congr 1
      funext c
      congr 1
      funext b
      cases b with
      | true => rfl
      | false => cases no <;> simp [Block.execOption]
  | expression value span =>
      simp only [Statement.exec, Statement.operand?, Statement.finish, Expr.evalOption]
      rfl
  | _ => simp only [Statement.exec, Statement.operand?, Statement.finish, Expr.evalOption, pure_bind]

/-- What a statement does with the value of its operand binds the name that it defines or assigns. -/
lemma Statement.finish_effect {env : Env} (henv : env.CallsHaveEffect) (st : Statement) (v : Value) :
    HasEffect st.target?.toList (st.finish env.policy (Block.eval env) v) := by
  cases st with
  | const name value span => exact (hasEffect_define _ v span (List.mem_singleton_self name)).lift
  | assign name value span => exact (hasEffect_assign v _ (List.mem_singleton_self name)).lift
  | classDef decl =>
      refine (hasEffect_newClass decl none).lift.bind fun c => ?_
      refine (hasEffect_define env.policy _ _ (List.mem_singleton_self decl.name)).lift.bind ?_
      exact fun _ => (hasEffect_register _ _).lift.discard
  | groupDef decl =>
      refine (hasEffect_newGroup decl).lift.bind fun g => ?_
      refine (hasEffect_define env.policy _ _ (List.mem_singleton_self decl.name)).lift.bind ?_
      exact fun _ => (hasEffect_register _ _).lift.discard
  | function name arms span =>
      refine (hasEffect_newFunction name arms).lift.bind fun f => ?_
      exact (hasEffect_define env.policy f span (List.mem_singleton_self name)).lift
  | leave value span => exact hasEffect_throw _
  | branch condition yes no span =>
      refine (hasEffect_liftExcept _).bind fun b => ?_
      split
      · next body _ => exact ((Block.eval_effect henv body).withFrame .empty).discard
      · exact hasEffect_pure _
  | log value span => exact hasEffect_modify fun s => .log _
  | logType path span =>
      exact (hasEffect_resolve path).lift.bind fun entry => hasEffect_modify fun s => .log _
  | expression value span => exact hasEffect_pure _

/-- Statements run piece by piece. -/
lemma Statement.execAll_append (env : Env) (sts sts' : List Statement) :
    Statement.execAll env (sts ++ sts') =
      Statement.execAll env sts >>= fun _ => Statement.execAll env sts' := by
  induction sts with
  | nil => simp only [List.nil_append, Statement.execAll, pure_bind]
  | cons st rest ih => simp only [List.cons_append, Statement.execAll, ih, bind_assoc]

/-- One more statement behind those that ran. -/
lemma Statement.execAll_snoc {env : Env} {sts : List Statement} {st : Statement} {s t u : State}
    (h : Statement.execAll env sts s = .ok () t) (hst : st.exec env t = .ok () u) :
    Statement.execAll env (sts ++ [st]) s = .ok () u := by
  rw [Statement.execAll_append, bind_apply, h]
  simp only [Statement.execAll, bind_apply, hst]
  rfl

/-- The operand of a statement is smaller than the statement. -/
lemma Statement.sizeOf_lt_of_operand? {st : Statement} {e : Expr} (h : st.operand? = some e) :
    sizeOf e < sizeOf st := by
  cases st <;> simp only [Statement.operand?, Option.some.injEq, reduceCtorEq] at h <;> subst h <;>
    simp <;> omega

/-- The operand of a statement has no sites but those of the statement. -/
lemma Statement.sites_subset_of_operand? {st : Statement} {e : Expr} (h : st.operand? = some e) :
    e.sites ⊆ st.sites := by
  cases st <;> simp only [Statement.operand?, Option.some.injEq, reduceCtorEq] at h <;> subst h <;>
    simp [Statement.sites, Expr.optionSites]

/-- The block that a condition selects is one of the two branches. -/
lemma Block.eq_of_branch {b : Bool} {yes body : Block} {no : Option Block}
    (h : (if b then some yes else no) = some body) : body = yes ∨ no = some body := by
  cases b with
  | true => exact Or.inl (Option.some.inj h).symm
  | false => exact Or.inr h

/-! ### Choosing an arm -/

/-- Choosing among alternatives looks at the patterns only. -/
lemma Pattern.first?_map {α β : Type} (types : Registry) (st : Store) (v : Value) (f : α → β)
    (alternatives : List (Expr × α)) :
    first? types st v (alternatives.map fun a => (a.1, f a.2)) =
      (first? types st v alternatives).map (·.map fun found => (f found.1, found.2)) := by
  induction alternatives with
  | nil => rfl
  | cons alternative rest ih =>
      obtain ⟨p, a⟩ := alternative
      simp only [List.map_cons, first?, ih]
      rcases match? types st p v with e | _ | bs <;> rfl

/-- A match on the arms of the text: the block of the arm chosen is evaluated in a frame of the
bindings. -/
lemma choose_alternativesOf_apply (block : Block → Eval Value) (v : Value) (arms : List Arm)
    (span : Span) (s : State) :
    choose v (alternativesOf block arms) span s =
      match Pattern.first? s.types s.store v arms with
      | .error e => .error (.failed e) s
      | .ok (some (body, bindings)) => withFrame (.ofList bindings) (block body) s
      | .ok none => .error (.failed (.fault (.nonExhaustiveMatch (v.text s.store)) (some span))) s := by
  rw [choose_apply, alternativesOf,
    Pattern.first?_map _ _ _ fun (body : Block) bindings => withFrame bindings (block body)]
  rcases Pattern.first? s.types s.store v arms with e | _ | ⟨body, bindings⟩ <;> rfl

end RecordLang
