import RecordLang.Proofs.Positions.Reading

/-!
Positions do not influence evaluation.

An action *mirrors* another when, started without places, it ends as the other ends, with the same
result and in the same state but for the places. Every piece of evaluation mirrors its counterpart in
the text without places: by recursion on the text for expressions, blocks and statements, and by
induction on the free places of the call stack for calls. So a run of the text without places is the
run of the text, with the places forgotten in all that it leaves.

* `Mirrors`: one action mirrors another, and `Mirrors.bind`, `Mirrors.withFrame`,
  `Mirrors.recordingCall` and others for actions put together.
* `Expr.eval_mirrors`, `Block.eval_mirrors`, `Statement.execAll_mirrors`, `callWithin_mirrors`: each
  piece of evaluation.
* `run_unplaced`: a run without places.
* `positions_never_influence_runs`: programs that differ in places only log the same lines and leave the
  same report and state but for places.
-/

namespace RecordLang

/-! ### Mirrored actions -/

/-- What may cut an action short has places to forget. -/
class Placed (ε : Type) where
  unplaced : ε → ε

instance : Placed Error :=
  ⟨Error.unplaced⟩

instance : Placed Interrupt :=
  ⟨Interrupt.unplaced⟩

/-- The outcome of an action without places: its result is changed by `f`. -/
def unplacedOutcome {ε α β : Type} [Placed ε] (f : α → β) :
    EStateM.Result ε State α → EStateM.Result ε State β
  | .ok a s => .ok (f a) s.unplaced
  | .error e s => .error (Placed.unplaced e) s.unplaced

/-- From a state without places, `x'` ends as `x` does from the state itself, but for the places; `f`
says what becomes of the result. -/
def Mirrors {ε α β : Type} [Placed ε] (f : α → β) (x : EStateM ε State α) (x' : EStateM ε State β) :
    Prop :=
  ∀ s, x' s.unplaced = unplacedOutcome f (x s)

section

variable {ε α β γ δ : Type} [Placed ε]

lemma mirrors_pure {f : α → β} {a : α} {b : β} (h : b = f a) :
    Mirrors f (pure a : EStateM ε State α) (pure b) := by
  subst h
  exact fun _ => rfl

lemma mirrors_throw (f : α → β) (e : ε) :
    Mirrors f (throw e : EStateM ε State α) (throw (Placed.unplaced e)) :=
  fun _ => rfl

lemma mirrors_get : Mirrors State.unplaced (get : EStateM ε State State) get :=
  fun _ => rfl

lemma mirrors_modify {f g : State → State} (h : ∀ s : State, g s.unplaced = (f s).unplaced) :
    Mirrors id (modify f : EStateM ε State Unit) (modify g) :=
  fun s => congrArg (EStateM.Result.ok ()) (h s)

/-- Two actions in a row. -/
lemma Mirrors.bind {f : α → β} {g : γ → δ} {x : EStateM ε State α} {x' : EStateM ε State β}
    {k : α → EStateM ε State γ} {k' : β → EStateM ε State δ} (hx : Mirrors f x x')
    (hk : ∀ a, Mirrors g (k a) (k' (f a))) : Mirrors g (x >>= k) (x' >>= k') := by
  intro s
  rw [bind_apply, bind_apply, hx s]
  cases x s with
  | ok a t => exact hk a t
  | error e t => rfl

lemma Mirrors.discard {f : α → β} {x : EStateM ε State α} {x' : EStateM ε State β}
    (hx : Mirrors f x x') : Mirrors id (Functor.discard x) (Functor.discard x') := by
  intro s
  rw [discard_apply, discard_apply, hx s]
  cases x s <;> rfl

end

section

variable {α β : Type} {f : α → β}

lemma Mirrors.lift {x : Run α} {x' : Run β} (h : Mirrors f x x') :
    Mirrors f (liftM x : Eval α) (liftM x' : Eval β) := by
  intro s
  rw [lift_apply, lift_apply, h s]
  cases x s <;> rfl

lemma mirrors_except {x : Except Error α} {x' : Except Error β} (h : x' = unplacedExcept f x) :
    Mirrors f (liftM x : Run α) (liftM x' : Run β) := by
  subst h
  cases x <;> exact fun _ => rfl

lemma Mirrors.settle {x x' : Eval Value} (h : Mirrors Value.unplaced x x') :
    Mirrors Value.unplaced (settle x) (settle x') := by
  intro s
  rw [settle_apply, settle_apply, h s]
  rcases x s with ⟨v, t⟩ | ⟨v | e, t⟩ <;> rfl

lemma State.enterFrame_unplaced (s : State) (bindings : Frame) :
    s.unplaced.enterFrame (bindings.map Value.unplaced) = (s.enterFrame bindings).unplaced := by
  simp only [State.enterFrame, Store.newFrame, State.unplaced, Store.unplaced, Array.size_map,
    Array.map_push]

lemma mirrors_leaveFrame : Mirrors id leaveFrame leaveFrame := by
  intro s
  rw [leaveFrame, leaveFrame, State.leaveFrame?, State.leaveFrame?]
  simp only [State.unplaced]
  cases s.scope.pop? <;> rfl

lemma Mirrors.withFrame {x : Eval α} {x' : Eval β} (h : Mirrors f x x') (bindings : Frame) :
    Mirrors f (withFrame bindings x) (withFrame (bindings.map Value.unplaced) x') := by
  intro s
  simp only [RecordLang.withFrame, State.enterFrame_unplaced, h (s.enterFrame bindings)]
  cases x (s.enterFrame bindings) with
  | ok a t | error i t =>
      -- however the body ended, the frame is left in the same way
      simp only [unplacedOutcome, mirrors_leaveFrame t]
      cases leaveFrame t <;> rfl

lemma Mirrors.withScope {x : Eval α} {x' : Eval β} (h : Mirrors f x x') (scope : Scope) :
    Mirrors f (withScope scope x) (withScope scope x') := by
  intro s
  have hs : x' { s.unplaced with scope } = unplacedOutcome f (x { s with scope }) := h { s with scope }
  rw [withScope_apply, withScope_apply, hs]
  cases x { s with scope } <;> rfl

lemma mirrors_popCall : Mirrors CallFrame.unplaced popCall popCall := by
  rintro ⟨store, scope, types, _ | ⟨call, rest⟩, console⟩ <;> rfl

lemma Mirrors.recordingCall {x x' : Run Value} (h : Mirrors Value.unplaced x x') (callee : String)
    (span : Span) :
    Mirrors Value.unplaced (recordingCall callee span x) (recordingCall callee default x') := by
  have hpush : Mirrors id
      (modify fun s => { s with calls := ⟨callee, some span⟩ :: s.calls } : Run Unit)
      (modify fun s => { s with calls := ⟨callee, some default⟩ :: s.calls }) :=
    mirrors_modify fun _ => rfl
  refine hpush.bind fun _ => h.bind fun v => ?_
  exact mirrors_popCall.discard.bind fun _ => mirrors_pure rfl

end

/-! ### Steps -/

lemma State.lookup_unplaced (s : State) (name : String) :
    s.unplaced.lookup name = (s.lookup name).map Value.unplaced :=
  Store.lookup_unplaced s.store s.scope name

lemma State.inTop_unplaced (s : State) (name : String) : s.unplaced.inTop name = s.inTop name := by
  rw [State.inTop, State.inTop]
  simp only [State.unplaced, Store.frame_unplaced, Table.contains_map]

/-- A change of one item commutes with a change of all items. -/
lemma map_modify {α β : Type} {f : α → β} {g : α → α} {g' : β → β} (h : ∀ a, f (g a) = g' (f a))
    (items : Array α) (i : Nat) : (items.modify i g).map f = (items.map f).modify i g' := by
  refine Array.ext_getElem? fun j => ?_
  simp only [Array.getElem?_modify, Array.getElem?_map]
  split
  · simp only [Option.map_map, Function.comp_def, h]
  · rfl

lemma State.bindTop_unplaced (s : State) (name : String) (v : Value) :
    s.unplaced.bindTop name v.unplaced = (s.bindTop name v).unplaced := by
  have hframes :
      (s.store.frames.modify s.scope.top.index (·.insert name v)).map (Table.map Value.unplaced)
        = (s.store.frames.map (Table.map Value.unplaced)).modify s.scope.top.index
          (·.insert name v.unplaced) :=
    map_modify (fun t => t.map_insert Value.unplaced name v) _ _
  simp only [State.bindTop, Store.bind, State.unplaced, Store.unplaced, hframes]

lemma Store.append_unplaced (st : Store) (r : ListRef) (item : Value) :
    st.unplaced.append r item.unplaced = (st.append r item).unplaced := by
  have hlists : (st.lists.modify r.index (·.push item)).map (Array.map Value.unplaced)
      = (st.lists.map (Array.map Value.unplaced)).modify r.index (·.push item.unplaced) :=
    map_modify (fun _ => Array.map_push) _ _
  simp only [Store.append, Store.unplaced, hlists]

lemma mirrors_getName (name : String) (span : Span) :
    Mirrors Value.unplaced (getName name (some span)) (getName name (some default)) := by
  refine mirrors_get.bind fun s => ?_
  rw [State.lookup_unplaced]
  cases s.lookup name with
  | none => exact mirrors_throw _ _
  | some v => exact mirrors_pure rfl

lemma mirrors_assign (name : String) (v : Value) (span : Span) :
    Mirrors id (assign name v (some span)) (assign name v.unplaced (some default)) := by
  refine mirrors_get.bind fun s => ?_
  rw [State.lookup_unplaced, Option.isSome_map]
  split
  · exact mirrors_modify fun t => t.bindTop_unplaced name v
  · exact mirrors_throw _ _

lemma mirrors_define (policy : Redefinition) (name : String) (v : Value) (span : Span) :
    Mirrors id (define policy name v span) (define policy name v.unplaced default) := by
  have hbind : Mirrors id (modify (·.bindTop name v) : Run Unit) (modify (·.bindTop name v.unplaced)) :=
    mirrors_modify fun t => t.bindTop_unplaced name v
  refine mirrors_get.bind fun s => ?_
  rw [State.inTop_unplaced]
  cases s.inTop name with
  | false => exact hbind
  | true =>
      cases policy with
      | strict => exact (mirrors_throw id _).bind fun _ => hbind
      | permissive =>
          have hlog : Mirrors id
              (modify (·.log ["warning:", s!"`{name}` is redefined"]) : Run Unit)
              (modify (·.log ["warning:", s!"`{name}` is redefined"])) := mirrors_modify fun _ => rfl
          exact hlog.bind fun _ => hbind

lemma mirrors_resolve (path : TypePath) :
    Mirrors TypeEntry.unplaced (resolve path) (resolve path.unplaced) :=
  mirrors_get.bind fun s => mirrors_except (s.types.resolve_unplaced path)

lemma mirrors_register (name : String) (entry : TypeEntry) :
    Mirrors (Option.map TypeEntry.unplaced) (register name entry) (register name entry.unplaced) := by
  refine mirrors_get.bind fun s => (mirrors_modify fun t => ?_).bind fun _ => ?_
  · simp only [State.unplaced, Registry.unplaced, Table.map_insert]
  · exact mirrors_pure (Table.find?_map TypeEntry.unplaced s.types name)

lemma mirrors_make {α β : Type} {f : α → β} {add : Store → α × Store} {add' : Store → β × Store}
    (h : ∀ st, add' st.unplaced = (f (add st).1, (add st).2.unplaced)) :
    Mirrors f (make add) (make add') := by
  intro s
  have hs := h s.store
  show EStateM.Result.ok (add' s.store.unplaced).1
    { s.unplaced with store := (add' s.store.unplaced).2 } = _
  rw [hs]
  rfl

lemma mirrors_newList (items : List Value) :
    Mirrors Value.unplaced (newList items) (newList (items.map Value.unplaced)) := by
  refine (mirrors_make (f := id) fun st => ?_).bind fun r => mirrors_pure rfl
  simp only [Store.newList, Store.unplaced, Array.size_map, Array.map_push, id, List.map_toArray]

lemma mirrors_newRecord (fields : List (String × Value)) :
    Mirrors Value.unplaced (newRecord fields)
      (newRecord (fields.map fun field => (field.1, field.2.unplaced))) := by
  refine (mirrors_make (f := id) fun st => ?_).bind fun r => mirrors_pure rfl
  simp only [Store.newRecord, Store.unplaced, Array.size_map, Array.map_push, id, Table.map_ofList]

lemma mirrors_newId : Mirrors id (make (·.newId)) (make (·.newId)) :=
  mirrors_make fun _ => rfl

lemma mirrors_newFunction (name : String) (arms : List Arm) :
    Mirrors Value.unplaced (newFunction name arms) (newFunction name (Block.unplacedArms arms)) :=
  mirrors_newId.bind fun _ => mirrors_get.bind fun _ => mirrors_pure rfl

lemma mirrors_newLambda (params : List (String × Option TypeExpr)) (body : Block) :
    Mirrors Value.unplaced (newLambda params body)
      (newLambda (unplacedParams params) body.unplaced) := by
  refine mirrors_newId.bind fun _ => mirrors_get.bind fun _ => mirrors_pure ?_
  rw [Shape.ofParams_unplaced]
  rfl

lemma Store.newClass_unplaced (st : Store) (decl : ClassDecl) (group : Option String) :
    st.unplaced.newClass decl.unplaced group
      = ((st.newClass decl group).1.unplaced, (st.newClass decl group).2.unplaced) := by
  simp only [Store.newClass, Store.newId, ClassDecl.unplaced, Shape.ofFields_unplaced]
  rfl

lemma Store.newVariants_unplaced (group : String) (decls : List ClassDecl) (st : Store) :
    Store.newVariants group st.unplaced (decls.map ClassDecl.unplaced)
      = ((Store.newVariants group st decls).1.map fun v => (v.1, v.2.unplaced),
        (Store.newVariants group st decls).2.unplaced) := by
  induction decls generalizing st with
  | nil => rfl
  | cons decl rest ih =>
      simp only [List.map_cons, Store.newVariants, Store.newClass_unplaced, ih]
      rfl

lemma Store.newGroup_unplaced (st : Store) (decl : GroupDecl) :
    st.unplaced.newGroup decl.unplaced
      = ((st.newGroup decl).1.unplaced, (st.newGroup decl).2.unplaced) := by
  simp only [Store.newGroup, GroupDecl.unplaced, Store.newVariants_unplaced, Group.unplaced,
    Table.map_ofList]
  rfl

/-- Choosing an arm: the same one is chosen, and runs in the same frame but for places. -/
lemma mirrors_choose {block block' : Block → Eval Value} {arms : List Arm}
    (h : ∀ arm ∈ arms, Mirrors Value.unplaced (block arm.2) (block' arm.2.unplaced)) (v : Value)
    (span : Span) :
    Mirrors Value.unplaced (choose v (alternativesOf block arms) span)
      (choose v.unplaced (alternativesOf block' (Block.unplacedArms arms)) default) := by
  intro s
  have hfirst : Pattern.first? s.unplaced.types s.unplaced.store v.unplaced (Block.unplacedArms arms)
      = unplacedExcept (Option.map fun a => (a.1.unplaced, Pattern.unplacedBindings a.2))
        (Pattern.first? s.types s.store v arms) := by
    rw [Block.unplacedArms_eq]
    exact Pattern.first?_unplaced s.types s.store Block.unplaced v arms
  -- the same error, no arm, or the same arm with the same bindings but for places
  rw [choose_alternativesOf_apply, choose_alternativesOf_apply, hfirst]
  rcases hchosen : Pattern.first? s.types s.store v arms with e | _ | ⟨body, bindings⟩
  · rfl
  · have htext : v.unplaced.text s.unplaced.store = v.text s.store := Value.text_unplaced s.store v
    simp only [unplacedExcept_ok, Option.map_none, htext]
    rfl
  · obtain ⟨p, hmem, -⟩ := Pattern.exists_of_first? hchosen
    have hframe : Table.ofList (Pattern.unplacedBindings bindings)
        = (Table.ofList bindings).map Value.unplaced := (Table.map_ofList _ _).symm
    simp only [unplacedExcept_ok, Option.map_some, hframe]
    exact (h _ hmem).withFrame _ s

lemma mirrors_native (f : Native) (argument : Value) (span : Span) :
    Mirrors Value.unplaced (f.call argument span) (f.call argument.unplaced default) := by
  rw [f.call_eq_apply, f.call_eq_apply]
  cases f with
  | length =>
      cases argument with
      | list r =>
          refine mirrors_get.bind fun s => mirrors_pure ?_
          simp only [State.unplaced, Store.list_unplaced, Array.size_map]
          rfl
      | string s => exact mirrors_pure rfl
      | _ => exact mirrors_throw _ _
  | toString =>
      refine mirrors_get.bind fun s => mirrors_pure ?_
      exact congrArg Value.string (Value.text_unplaced s.store argument)
  | push =>
      refine (mirrors_except (argument.expectRecord_unplaced span)).bind fun r => ?_
      refine mirrors_get.bind fun s => ?_
      have hfield := fun name => Native.pushField_unplaced span (s.store.record r) name
      rw [← Store.record_unplaced] at hfield
      refine (mirrors_except (hfield "list")).bind fun target => ?_
      refine (mirrors_except (hfield "item")).bind fun item => ?_
      refine (mirrors_except (target.expectList_unplaced span)).bind fun list => ?_
      refine (mirrors_modify fun t => ?_).bind fun _ => mirrors_pure rfl
      simp only [State.unplaced, id, Store.append_unplaced]
  | floor =>
      exact (mirrors_except (argument.expectNumber_unplaced span)).bind fun _ => mirrors_pure rfl

lemma mirrors_construct (c : Class) (argument : Value) (span : Span) :
    Mirrors Value.unplaced (construct c argument span)
      (construct c.unplaced argument.unplaced default) := by
  refine (mirrors_except (argument.expectRecord_unplaced span)).bind fun r => ?_
  exact mirrors_get.bind fun s => mirrors_except (c.instantiate_unplaced s.types s.store r span)

lemma mirrors_bindParams (f : Lambda) (argument : Value) (span : Span) :
    Mirrors (Table.map Value.unplaced) (f.bindParams argument span)
      (f.unplaced.bindParams argument.unplaced default) := by
  have hother : Mirrors (Table.map Value.unplaced)
      (throw (.fault (.typeMismatch "function argument" f.params.text argument.typeName) (some span))
        : Run Frame)
      (throw (.fault
        (.typeMismatch "function argument" f.unplaced.params.text argument.unplaced.typeName)
        (some default))) := by
    rw [Value.typeName_unplaced, Lambda.unplaced, Shape.text_unplaced]
    exact mirrors_throw _ _
  cases argument with
  | record r =>
      refine mirrors_get.bind fun s => ?_
      have hcheck := f.params.check_unplaced s.types s.store (s.store.record r) "function argument" span
      rw [← Store.record_unplaced] at hcheck
      refine (mirrors_except hcheck).bind fun _ => mirrors_pure ?_
      exact Store.record_unplaced s.store r
  | _ => exact hother

/-! ### Evaluation -/

/-- The calls of the second environment mirror those of the first. -/
structure Env.Mirrors (env env' : Env) : Prop where
  policy_eq : env'.policy = env.policy
  call : ∀ f v span, RecordLang.Mirrors Value.unplaced (env.call f v span)
    (env'.call f.unplaced v.unplaced default)

mutual

/-- An expression without places evaluates to the value without places. -/
theorem Expr.eval_mirrors {env env' : Env} (henv : env.Mirrors env') (e : Expr) :
    Mirrors Value.unplaced (e.eval env) (e.unplaced.eval env') := by
  cases e with
  | identifier name span => exact (mirrors_getName name span).lift
  | typeRef path =>
      exact (mirrors_resolve path).lift.bind fun entry => mirrors_pure entry.toValue_unplaced
  | literal l span => exact mirrors_pure (by cases l <;> rfl)
  | record fields span =>
      exact (Expr.evalFields_mirrors henv fields).bind fun vs => (mirrors_newRecord vs).lift
  | list items span =>
      exact (Expr.evalAll_mirrors henv items).bind fun vs => (mirrors_newList vs).lift
  | binary op left right span =>
      refine (Expr.eval_mirrors henv left).bind fun l => ?_
      refine (Expr.eval_mirrors henv right).bind fun r => mirrors_get.bind fun s => ?_
      exact (mirrors_except (Operator.binary_unplaced span s.store op l r)).lift
  | unary op operand span =>
      refine (Expr.eval_mirrors henv operand).bind fun v => ?_
      exact (mirrors_except (Operator.unary_unplaced span op v)).lift
  | call callee argument span =>
      refine (Expr.eval_mirrors henv callee).bind fun f => ?_
      exact (Expr.eval_mirrors henv argument).bind fun v => (henv.call f v span).lift
  | callNamed callee arguments span =>
      refine (Expr.eval_mirrors henv callee).bind fun f => ?_
      refine (Expr.evalFields_mirrors henv arguments).bind fun vs => ?_
      exact (mirrors_newRecord vs).lift.bind fun v => (henv.call f v span).lift
  | field base name span =>
      refine (Expr.eval_mirrors henv base).bind fun v => mirrors_get.bind fun s => ?_
      exact (mirrors_except (readField_unplaced span s.store v name)).lift
  | index base position span =>
      refine (Expr.eval_mirrors henv base).bind fun target => ?_
      refine (Expr.eval_mirrors henv position).bind fun v => mirrors_get.bind fun s => ?_
      exact (mirrors_except (readIndex_unplaced span s.store target v)).lift
  | select subject arms span =>
      refine (Expr.eval_mirrors henv subject).bind fun v => ?_
      rw [Block.evalArms_eq, Block.evalArms_eq]
      exact mirrors_choose (Block.evalArms_mirrors henv arms) v span
  | lambda params body span => exact (mirrors_newLambda params body).lift

theorem Expr.evalAll_mirrors {env env' : Env} (henv : env.Mirrors env') (es : List Expr) :
    Mirrors (List.map Value.unplaced) (Expr.evalAll env es)
      (Expr.evalAll env' (Expr.unplacedAll es)) := by
  cases es with
  | nil => exact mirrors_pure rfl
  | cons e rest =>
      refine (Expr.eval_mirrors henv e).bind fun v => ?_
      exact (Expr.evalAll_mirrors henv rest).bind fun vs => mirrors_pure rfl

theorem Expr.evalFields_mirrors {env env' : Env} (henv : env.Mirrors env')
    (fields : List (String × Expr)) :
    Mirrors (List.map fun field => (field.1, field.2.unplaced)) (Expr.evalFields env fields)
      (Expr.evalFields env' (Expr.unplacedFields fields)) := by
  cases fields with
  | nil => exact mirrors_pure rfl
  | cons field rest =>
      obtain ⟨name, e⟩ := field
      refine (Expr.eval_mirrors henv e).bind fun v => ?_
      exact (Expr.evalFields_mirrors henv rest).bind fun vs => mirrors_pure rfl

theorem Expr.evalOption_mirrors {env env' : Env} (henv : env.Mirrors env') (o : Option Expr) :
    Mirrors Value.unplaced (Expr.evalOption env o) (Expr.evalOption env' (Expr.unplacedOption o)) := by
  cases o with
  | none => exact mirrors_pure rfl
  | some e => exact Expr.eval_mirrors henv e

/-- The blocks of the arms, each on its own. -/
theorem Block.evalArms_mirrors {env env' : Env} (henv : env.Mirrors env') (arms : List (Expr × Block)) :
    ∀ arm ∈ arms, Mirrors Value.unplaced (Block.eval env arm.2) (Block.eval env' arm.2.unplaced) := by
  cases arms with
  | nil => exact fun arm hmem => absurd hmem List.not_mem_nil
  | cons arm rest =>
      obtain ⟨pattern, body⟩ := arm
      rw [List.forall_mem_cons]
      exact ⟨Block.eval_mirrors henv body, Block.evalArms_mirrors henv rest⟩

theorem Block.eval_mirrors {env env' : Env} (henv : env.Mirrors env') (b : Block) :
    Mirrors Value.unplaced (b.eval env) (b.unplaced.eval env') := by
  cases b with
  | mk statements tail =>
      exact (Statement.execAll_mirrors henv statements).bind fun _ => Expr.evalOption_mirrors henv tail

theorem Block.execOption_mirrors {env env' : Env} (henv : env.Mirrors env') (o : Option Block) :
    Mirrors id (Block.execOption env o) (Block.execOption env' (Block.unplacedOption o)) := by
  cases o with
  | none => exact mirrors_pure rfl
  | some b => exact ((Block.eval_mirrors henv b).withFrame .empty).discard

theorem Statement.exec_mirrors {env env' : Env} (henv : env.Mirrors env') (st : Statement) :
    Mirrors id (st.exec env) (st.unplaced.exec env') := by
  have hdefine : ∀ name v span,
      Mirrors id (define env.policy name v span) (define env'.policy name v.unplaced default) := by
    rw [henv.policy_eq]
    exact mirrors_define env.policy
  cases st with
  | const name value span =>
      exact (Expr.eval_mirrors henv value).bind fun v => (hdefine name v span).lift
  | assign name value span =>
      exact (Expr.eval_mirrors henv value).bind fun v => (mirrors_assign name v span).lift
  | classDef decl =>
      refine (mirrors_make (f := Class.unplaced) fun st => st.newClass_unplaced decl none).lift.bind ?_
      intro c
      refine (hdefine decl.name (.ofClass c) decl.span).lift.bind fun _ => ?_
      exact (mirrors_register decl.name (.ofClass c)).lift.discard
  | groupDef decl =>
      refine (mirrors_make (f := Group.unplaced) fun st => st.newGroup_unplaced decl).lift.bind ?_
      intro g
      refine (hdefine decl.name (.ofGroup g) decl.span).lift.bind fun _ => ?_
      exact (mirrors_register decl.name (.ofGroup g)).lift.discard
  | function name arms span =>
      exact (mirrors_newFunction name arms).lift.bind fun f => (hdefine name f span).lift
  | leave value span =>
      exact (Expr.evalOption_mirrors henv value).bind fun v => mirrors_throw id (Interrupt.returned v)
  | branch condition yes no span =>
      refine (Expr.eval_mirrors henv condition).bind fun c => ?_
      rw [Expr.span_unplaced]
      refine (mirrors_except (c.expectBoolean_unplaced condition.span)).lift.bind fun b => ?_
      cases b with
      | true => exact ((Block.eval_mirrors henv yes).withFrame .empty).discard
      | false => exact Block.execOption_mirrors henv no
  | log value span =>
      refine (Expr.eval_mirrors henv value).bind fun v => mirrors_modify fun s => ?_
      rw [show v.unplaced.text s.unplaced.store = v.text s.store from Value.text_unplaced s.store v]
      rfl
  | logType path span =>
      refine (mirrors_resolve path).lift.bind fun entry => mirrors_modify fun s => ?_
      rw [TypeEntry.text_unplaced]
      rfl
  | expression value span => exact (Expr.eval_mirrors henv value).discard

theorem Statement.execAll_mirrors {env env' : Env} (henv : env.Mirrors env') (sts : List Statement) :
    Mirrors id (Statement.execAll env sts) (Statement.execAll env' (Statement.unplacedAll sts)) := by
  cases sts with
  | nil => exact mirrors_pure rfl
  | cons st rest =>
      exact (Statement.exec_mirrors henv st).bind fun _ => Statement.execAll_mirrors henv rest

end

/-! ### Calls -/

lemma MatchFunction.apply_mirrors {env env' : Env} (henv : env.Mirrors env') (f : MatchFunction)
    (argument : Value) (span : Span) :
    Mirrors Value.unplaced (f.apply env argument span)
      (f.unplaced.apply env' argument.unplaced default) := by
  rw [MatchFunction.apply, MatchFunction.apply, Block.evalArms_eq, Block.evalArms_eq]
  have hbody := mirrors_choose (Block.evalArms_mirrors henv f.arms) argument span
  exact (hbody.withScope f.scope).settle

lemma Lambda.apply_mirrors {env env' : Env} (henv : env.Mirrors env') (f : Lambda) (argument : Value)
    (span : Span) :
    Mirrors Value.unplaced (f.apply env argument span)
      (f.unplaced.apply env' argument.unplaced default) := by
  refine (mirrors_bindParams f argument span).bind fun params => ?_
  exact (((Block.eval_mirrors henv f.body).withFrame params).withScope f.scope).settle

/-- A call without places. -/
theorem callWithin_mirrors (config : Config) (room : Nat) (target argument : Value) (span : Span) :
    Mirrors Value.unplaced (callWithin config room target argument span)
      (callWithin config room target.unplaced argument.unplaced default) := by
  induction room generalizing target argument span with
  | zero =>
      cases target with
      | ofClass c => exact mirrors_construct c argument span
      | _ => exact mirrors_throw _ _
  | succ room ih =>
      have henv : Env.Mirrors ⟨config.redefinition, callWithin config room⟩
          ⟨config.redefinition, callWithin config room⟩ := ⟨rfl, ih⟩
      cases target with
      | ofClass c => exact mirrors_construct c argument span
      | function f => exact (f.apply_mirrors henv argument span).recordingCall f.name span
      | lambda f => exact (f.apply_mirrors henv argument span).recordingCall Lambda.callee span
      | native f => exact (mirrors_native f argument span).recordingCall f.name span
      | _ => exact mirrors_throw _ _

lemma Config.env_mirrors (config : Config) (room : Nat) : (config.env room).Mirrors (config.env room) :=
  ⟨rfl, callWithin_mirrors config room⟩

/-! ### Runs -/

lemma Error.message_unplaced (e : Error) : e.unplaced.message = e.message := by
  cases e <;> rfl

lemma State.reportFailure_unplaced (s : State) (e : Error) :
    s.unplaced.reportFailure e.unplaced = (s.reportFailure e).unplaced := by
  have hcalls : ∀ (calls : List CallFrame) (console : Console),
      (calls.map CallFrame.unplaced).foldl (fun console call => console.log ["  at", call.callee])
          console.unplaced
        = (calls.foldl (fun console call => console.log ["  at", call.callee]) console).unplaced := by
    intro calls
    induction calls with
    | nil => exact fun _ => rfl
    | cons call rest ih => exact fun console => ih (console.log ["  at", call.callee])
  have hfail : ∀ console : Console, console.unplaced.fail e.unplaced = (console.fail e).unplaced := by
    rintro ⟨lines, _ | failure⟩ <;> rfl
  simp only [State.reportFailure, Error.message_unplaced, State.unplaced]
  rw [← hfail, ← hcalls]
  rfl

/-- **A run without places** is the run, without the places in its report and its state. -/
theorem run_unplaced (config : Config) (program : Program) (s : State) :
    run config (Statement.unplacedAll program) s.unplaced
      = ((run config program s).1.unplaced, (run config program s).2.unplaced) := by
  have hroom : s.unplaced.room config = s.room config := by
    simp only [State.room, State.unplaced, List.length_map]
  have hrun : execute config (Statement.unplacedAll program) s.unplaced
      = unplacedOutcome id (execute config program s) := by
    rw [execute, execute, hroom]
    exact Statement.execAll_mirrors (config.env_mirrors _) program s
  rw [run, run, hrun]
  rcases execute config program s with ⟨u, t⟩ | ⟨v | e, t⟩
  · rfl
  · rfl
  · exact congrArg (Prod.mk _) (t.reportFailure_unplaced e)

/-- There are no places in the state that programs start from. -/
lemma State.initial_unplaced : State.initial.unplaced = State.initial := by
  have hprelude : Native.prelude.map Value.unplaced = Native.prelude := by
    rw [Native.prelude, Table.map_ofList]
    rfl
  have hglobals : (State.ofGlobals Native.prelude).unplaced
      = State.ofGlobals (Native.prelude.map Value.unplaced) := by
    simp only [State.ofGlobals, Store.newFrame, State.unplaced, Store.unplaced, Array.map_push,
      Array.map_empty]
    rfl
  rw [State.initial, hglobals, hprelude]

/-- **Positions never influence behaviour.** Two programs that are equal without their places, run from
the initial state under one configuration: the lines on the console are equal, and so are the reports
without places and the final states without places. -/
theorem positions_never_influence_runs (config : Config) (program program' : Program)
    (h : Statement.unplacedAll program = Statement.unplacedAll program') :
    (run config program .initial).2.console.lines = (run config program' .initial).2.console.lines ∧
    (run config program .initial).1.unplaced = (run config program' .initial).1.unplaced ∧
    (run config program .initial).2.unplaced = (run config program' .initial).2.unplaced := by
  have hrun : ∀ p : Program, run config (Statement.unplacedAll p) .initial
      = ((run config p .initial).1.unplaced, (run config p .initial).2.unplaced) := by
    intro p
    rw [← run_unplaced, State.initial_unplaced]
  have hboth := (hrun program).symm.trans (h ▸ hrun program')
  obtain ⟨hreport, hstate⟩ := Prod.mk.inj hboth
  exact ⟨congrArg (fun s => s.console.lines) hstate, hreport, hstate⟩

/-- A program logs a line and fails in a call. Written elsewhere, it logs the same lines, the error and
the trace of the call among them. -/
theorem moved_program_logs_same_lines :
    let program (span : Span) : Program :=
      [.function "f" [(.identifier "x" span, .mk [] (some (.identifier "y" span)))] span,
        .log (.literal (.string "ready") span) span,
        .expression (.call (.identifier "f" span) (.literal .null span) span) span]
    let moved := run default (program ⟨40, 52⟩) .initial
    Statement.unplacedAll (program ⟨0, 12⟩) = Statement.unplacedAll (program ⟨40, 52⟩) ∧
      moved.2.console.lines = #["ready", "error: Unresolved identifier `y`", "  at f"] ∧
      moved.1.unplaced = (run default (program ⟨0, 12⟩) .initial).1.unplaced := by
  intro program moved
  have htext : Statement.unplacedAll (program ⟨0, 12⟩) = Statement.unplacedAll (program ⟨40, 52⟩) := rfl
  obtain ⟨hlines, hreport, -⟩ := positions_never_influence_runs default _ _ htext
  have hfirst : (run default (program ⟨0, 12⟩) .initial).2.console.lines
      = #["ready", "error: Unresolved identifier `y`", "  at f"] := by decide +kernel
  exact ⟨htext, hlines.symm.trans hfirst, hreport.symm⟩

end RecordLang
