import RecordLang.Proofs.Effect
import RecordLang.Proofs.Matching

/-!
Every piece of evaluation has an effect.

* `HasEffect`: an action has an effect from every state.
* `HasEffect.bind`, `HasEffect.withFrame`, `HasEffect.withScope`, `HasEffect.recordingCall`: how
  actions are put together.
* `withFrame_apply`, `recordingCall_apply`: leaving a frame and removing a call record cannot go wrong,
  because the effect of what ran inside has put the scope and the calls back.
* `Statement.targets`: the names that statements define or assign directly.
* `Expr.eval_effect`, `Block.eval_effect`, `Statement.execAll_effect`, `callWithin_effect`: the effect
  of each piece of evaluation, by recursion on the program text and on the free places for calls.
-/

namespace RecordLang

/-! ### Running actions -/

section

variable {ε α β : Type}

/-- The second action runs with the result of the first, where that ended well. -/
lemma bind_apply (x : EStateM ε State α) (f : α → EStateM ε State β) (s : State) :
    (x >>= f) s =
      match x s with
      | .ok a t => f a t
      | .error e t => .error e t := by
  show EStateM.bind x f s = _
  rw [EStateM.bind]
  cases x s <;> rfl

lemma get_bind_apply (f : State → EStateM ε State β) (s : State) : (get >>= f) s = f s s :=
  rfl

lemma discard_apply (x : EStateM ε State α) (s : State) :
    Functor.discard x s =
      match x s with
      | .ok _ t => .ok () t
      | .error e t => .error e t := by
  show EStateM.map _ x s = _
  rw [EStateM.map]
  cases x s <;> rfl

/-- A host action inside evaluation: its error is a failure. -/
lemma lift_apply (x : Run α) (s : State) :
    (liftM x : Eval α) s =
      match x s with
      | .ok a t => .ok a t
      | .error e t => .error (.failed e) t :=
  rfl

lemma withScope_apply (scope : Scope) (x : Eval α) (s : State) :
    withScope scope x s =
      match x { s with scope } with
      | .ok a t => .ok a { t with scope := s.scope }
      | .error i t => .error i { t with scope := s.scope } :=
  rfl

lemma settle_apply (x : Eval Value) (s : State) :
    settle x s =
      match x s with
      | .ok v t => .ok v t
      | .error (.returned v) t => .ok v t
      | .error (.failed e) t => .error e t :=
  rfl

end

/-! ### Actions with effects -/

/-- An action has an effect from every state, and binds in the innermost frame at most `names`. -/
def HasEffect {ε α : Type} [Interrupts ε] (names : List String) (x : EStateM ε State α) : Prop :=
  ∀ s, Effect names s (interrupt? (x s)) (finalState (x s))

section

variable {ε α β : Type} [Interrupts ε] {names : List String}

lemma HasEffect.mono {names' : List String} {x : EStateM ε State α} (h : HasEffect names x)
    (hsub : names ⊆ names') : HasEffect names' x :=
  fun s => (h s).mono hsub

/-- What binds nothing may stand where names may be bound. -/
lemma HasEffect.weaken {x : EStateM ε State α} (h : HasEffect [] x) : HasEffect names x :=
  h.mono (List.nil_subset names)

lemma hasEffect_pure (a : α) : HasEffect names (pure a : EStateM ε State α) :=
  fun _ => .stay

lemma hasEffect_throw (e : ε) : HasEffect names (throw e : EStateM ε State α) :=
  fun _ => .stay

lemma hasEffect_get : HasEffect names (get : EStateM ε State State) :=
  fun _ => .stay

lemma hasEffect_modify {f : State → State} (h : ∀ s, Effect names s none (f s)) :
    HasEffect names (modify f : EStateM ε State Unit) :=
  h

lemma HasEffect.bind {x : EStateM ε State α} {f : α → EStateM ε State β} (hx : HasEffect names x)
    (hf : ∀ a, HasEffect names (f a)) : HasEffect names (x >>= f) := by
  intro s
  have h₁ := hx s
  rw [bind_apply]
  cases hs : x s with
  | ok a t =>
      rw [hs] at h₁
      exact .seq h₁ (hf a t)
  | error e t =>
      rw [hs] at h₁
      exact h₁

lemma HasEffect.discard {x : EStateM ε State α} (h : HasEffect names x) :
    HasEffect names (Functor.discard x) := by
  intro s
  have h₁ := h s
  rw [discard_apply]
  cases hs : x s <;> rw [hs] at h₁ <;> exact h₁

end

section

variable {α : Type} {names : List String}

/-- A host action keeps its effect as a part of evaluation. -/
lemma HasEffect.lift {x : Run α} (h : HasEffect names x) :
    HasEffect names (liftM x : Eval α) := by
  intro s
  have h₁ := h s
  rw [lift_apply]
  cases hs : x s <;> rw [hs] at h₁ <;> exact h₁

/-- A pure computation changes nothing. -/
lemma hasEffect_except (x : Except Error α) : HasEffect names (liftM x : Run α) := by
  cases x with
  | ok a => exact hasEffect_pure a
  | error e => exact hasEffect_throw e

/-- A pure computation changes nothing in evaluation either. -/
lemma hasEffect_liftExcept (x : Except Error α) : HasEffect names (liftM x : Eval α) :=
  (hasEffect_except x).lift

/-- Leaving the frame entered in `s` gives the scope of `s` back. -/
lemma leaveFrame_eq {s t : State} {bindings : Frame}
    (h : t.scope = (s.enterFrame bindings).scope) :
    leaveFrame t = .ok () { t with scope := s.scope } := by
  simp [leaveFrame, State.leaveFrame?, h, State.enterFrame]

/-- A frame of its own can always be left: the effect of what ran in it has put back the scope with
that frame on top. -/
lemma withFrame_apply {x : Eval α} (h : HasEffect names x) (bindings : Frame) (s : State) :
    withFrame bindings x s =
      match x (s.enterFrame bindings) with
      | .ok a t => .ok a { t with scope := s.scope }
      | .error i t => .error i { t with scope := s.scope } := by
  have h₁ := h (s.enterFrame bindings)
  simp only [withFrame]
  cases hs : x (s.enterFrame bindings) with
  | ok a t | error i t =>
      rw [hs] at h₁
      have hleave : leaveFrame t = .ok () { t with scope := s.scope } := leaveFrame_eq h₁.scope_eq
      simp only [hleave]

lemma HasEffect.withFrame {inner : List String} {x : Eval α} (h : HasEffect inner x)
    (bindings : Frame) : HasEffect names (withFrame bindings x) := by
  intro s
  have h₁ := h (s.enterFrame bindings)
  rw [withFrame_apply h]
  cases hs : x (s.enterFrame bindings) <;> rw [hs] at h₁ <;> exact .frame h₁

/-- What runs in another scope may bind nothing there directly. -/
lemma HasEffect.withScope {x : Eval α} (h : HasEffect [] x) (scope : Scope) :
    HasEffect names (withScope scope x) := by
  intro s
  have h₁ := h { s with scope }
  rw [withScope_apply]
  cases hs : x { s with scope } <;> rw [hs] at h₁ <;> exact .scope h₁

/-- Taking the value of a `return` ends evaluation well. -/
lemma HasEffect.settle {x : Eval Value} (h : HasEffect names x) :
    HasEffect names (settle x) := by
  intro s
  have h₁ := h s
  rw [settle_apply]
  rcases hs : x s with ⟨v, t⟩ | ⟨v | e, t⟩
  · rw [hs] at h₁
    exact h₁
  · rw [hs] at h₁
    exact .settle h₁
  · rw [hs] at h₁
    exact h₁

/-- Removing the newest call leaves the calls before it. -/
lemma popCall_eq {t : State} {c : CallFrame} {rest : List CallFrame} (h : t.calls = c :: rest) :
    popCall t = .ok c { t with calls := rest } := by
  obtain ⟨store, scope, types, calls, console⟩ := t
  subst h
  rfl

/-- The record of a call can always be removed: a body that ended well has left it on top. -/
lemma recordingCall_apply {x : Run Value} (h : HasEffect [] x) (callee : String) (span : Span)
    (s : State) :
    recordingCall callee span x s =
      match x { s with calls := ⟨callee, some span⟩ :: s.calls } with
      | .ok v t => .ok v { t with calls := s.calls }
      | .error e t => .error e t := by
  have h₁ := h { s with calls := ⟨callee, some span⟩ :: s.calls }
  show (x >>= fun v => Functor.discard popCall >>= fun _ => pure v) _ = _
  rw [bind_apply]
  cases hs : x { s with calls := ⟨callee, some span⟩ :: s.calls } with
  | ok v t =>
      rw [hs] at h₁
      have hpop : popCall t = .ok _ { t with calls := s.calls } := popCall_eq h₁.calls_of_settled
      simp only [bind_apply, discard_apply, hpop]
      rfl
  | error e t => rfl

lemma HasEffect.recordingCall {x : Run Value} (h : HasEffect [] x) (callee : String)
    (span : Span) : HasEffect names (recordingCall callee span x) := by
  intro s
  have h₁ := h { s with calls := ⟨callee, some span⟩ :: s.calls }
  rw [recordingCall_apply h]
  cases hs : x { s with calls := ⟨callee, some span⟩ :: s.calls } with
  | ok v t =>
      rw [hs] at h₁
      exact .call h₁
  | error e t =>
      rw [hs] at h₁
      exact .callFailed h₁

end

/-! ### Steps -/

section

variable {names : List String}

lemma hasEffect_getName (name : String) (span : Option Span) :
    HasEffect names (getName name span) := by
  rw [getName]
  refine hasEffect_get.bind fun s => ?_
  split
  · exact hasEffect_pure _
  · exact hasEffect_throw _

lemma hasEffect_assign {name : String} (v : Value) (span : Option Span) (h : name ∈ names) :
    HasEffect names (assign name v span) := by
  rw [assign]
  refine hasEffect_get.bind fun s => ?_
  split
  · exact hasEffect_modify fun t => .bind v h
  · exact hasEffect_throw _

lemma hasEffect_define (policy : Redefinition) {name : String} (v : Value) (span : Span)
    (h : name ∈ names) : HasEffect names (define policy name v span) := by
  have hbind : HasEffect names (modify (·.bindTop name v) : Run Unit) :=
    hasEffect_modify fun t => .bind v h
  rw [define]
  refine hasEffect_get.bind fun s => ?_
  split
  · cases policy with
    | strict => exact (hasEffect_throw _).bind fun _ => hbind
    | permissive => exact (hasEffect_modify fun t => .log _).bind fun _ => hbind
  · exact hbind

lemma hasEffect_resolve (path : TypePath) : HasEffect names (resolve path) :=
  hasEffect_get.bind fun _ => hasEffect_except _

lemma hasEffect_register (name : String) (entry : TypeEntry) :
    HasEffect names (register name entry) :=
  hasEffect_get.bind fun _ =>
    (hasEffect_modify fun _ => .register name entry).bind fun _ => hasEffect_pure _

lemma hasEffect_make {α : Type} {add : Store → α × Store}
    (h : ∀ s : State, Effect names s none { s with store := (add s.store).2 }) :
    HasEffect names (make add) :=
  h

lemma hasEffect_newList (items : List Value) : HasEffect names (newList items) :=
  (hasEffect_make fun _ => .list items.toArray).bind fun _ => hasEffect_pure _

lemma hasEffect_newRecord (fields : List (String × Value)) : HasEffect names (newRecord fields) :=
  (hasEffect_make fun _ => .record (.ofList fields)).bind fun _ => hasEffect_pure _

lemma hasEffect_newId : HasEffect names (make (·.newId)) :=
  hasEffect_make fun s => .number (Nat.le_succ s.store.nextId)

lemma hasEffect_newFunction (name : String) (arms : List Arm) :
    HasEffect names (newFunction name arms) :=
  hasEffect_newId.bind fun _ => hasEffect_get.bind fun _ => hasEffect_pure _

lemma hasEffect_newLambda (params : List (String × Option TypeExpr)) (body : Block) :
    HasEffect names (newLambda params body) :=
  hasEffect_newId.bind fun _ => hasEffect_get.bind fun _ => hasEffect_pure _

lemma hasEffect_newClass (decl : ClassDecl) (group : Option String) :
    HasEffect names (make (·.newClass decl group)) :=
  hasEffect_make fun s => .number (Nat.le_succ s.store.nextId)

/-- Making the variants of a group takes new numbers and nothing else. -/
lemma newVariants_snd (group : String) (decls : List ClassDecl) (st : Store) :
    (Store.newVariants group st decls).2 = { st with nextId := st.nextId + decls.length } := by
  induction decls generalizing st with
  | nil => rfl
  | cons decl rest ih =>
      simp only [Store.newVariants, Store.newClass, Store.newId, ih, List.length_cons]
      congr 1
      omega

lemma newGroup_snd (decl : GroupDecl) (st : Store) :
    (st.newGroup decl).2 = { st with nextId := st.nextId + decl.variants.length + 1 } := by
  simp only [Store.newGroup, Store.newId, newVariants_snd]

lemma hasEffect_newGroup (decl : GroupDecl) : HasEffect names (make (·.newGroup decl)) := by
  refine hasEffect_make fun s => ?_
  rw [newGroup_snd]
  exact .number (by omega)

lemma hasEffect_native (f : Native) (argument : Value) (span : Span) :
    HasEffect names (f.call argument span) := by
  rw [f.call_eq_apply]
  cases f with
  | length =>
      cases argument with
      | list r => exact hasEffect_get.bind fun _ => hasEffect_pure _
      | string s => exact hasEffect_pure _
      | _ => exact hasEffect_throw _
  | toString => exact hasEffect_get.bind fun _ => hasEffect_pure _
  | push =>
      refine (hasEffect_except _).bind fun r => hasEffect_get.bind fun s => ?_
      refine (hasEffect_except _).bind fun target => (hasEffect_except _).bind fun item => ?_
      refine (hasEffect_except _).bind fun list => ?_
      exact (hasEffect_modify fun t => .append list item).bind fun _ => hasEffect_pure _
  | floor => exact (hasEffect_except _).bind fun _ => hasEffect_pure _

lemma hasEffect_construct (c : Class) (argument : Value) (span : Span) :
    HasEffect names (construct c argument span) :=
  (hasEffect_except _).bind fun _ => hasEffect_get.bind fun _ => hasEffect_except _

lemma hasEffect_bindParams (f : Lambda) (argument : Value) (span : Span) :
    HasEffect names (f.bindParams argument span) := by
  cases argument with
  | record r =>
      exact hasEffect_get.bind fun _ => (hasEffect_except _).bind fun _ => hasEffect_pure _
  | _ => exact hasEffect_throw _

/-- A match: the alternative chosen runs with its bindings. -/
lemma choose_apply (v : Value) (alternatives : List (Expr × (Frame → Eval Value))) (span : Span)
    (s : State) :
    choose v alternatives span s =
      match Pattern.first? s.types s.store v alternatives with
      | .error e => .error (.failed e) s
      | .ok (some (body, bindings)) => body (.ofList bindings) s
      | .ok none => .error (.failed (.fault (.nonExhaustiveMatch (v.text s.store)) (some span))) s := by
  show EStateM.bind (liftM (Pattern.first? s.types s.store v alternatives)) _ s = _
  rcases Pattern.first? s.types s.store v alternatives with e | _ | ⟨body, bindings⟩ <;> rfl

/-- A match has the effect of the alternatives it chooses from. -/
lemma hasEffect_choose {v : Value} {alternatives : List (Expr × (Frame → Eval Value))} {span : Span}
    (h : ∀ alternative ∈ alternatives, ∀ bindings, HasEffect names (alternative.2 bindings)) :
    HasEffect names (choose v alternatives span) := by
  intro s
  rw [choose_apply]
  rcases hfirst : Pattern.first? s.types s.store v alternatives with e | _ | ⟨body, bindings⟩
  · exact .stay
  · exact .stay
  · obtain ⟨p, hmem, -⟩ := Pattern.exists_of_first? hfirst
    exact h (p, body) hmem (.ofList bindings) s

end

/-! ### Evaluation -/

/-- The name that a statement defines or assigns, if it does. -/
def Statement.target? : Statement → Option String
  | .const name _ _ => some name
  | .assign name _ _ => some name
  | .classDef decl => some decl.name
  | .groupDef decl => some decl.name
  | .function name _ _ => some name
  | _ => none

/-- The names that statements define or assign themselves. What blocks inside them and functions called
by them define is not among them. -/
def Statement.targets (statements : List Statement) : List String :=
  statements.filterMap Statement.target?

/-- The names that the statements of a block define or assign themselves. -/
def Block.targets : Block → List String
  | .mk statements _ => Statement.targets statements

/-- Calls have an effect and bind nothing in the caller's frame. -/
def Env.CallsHaveEffect (env : Env) : Prop :=
  ∀ f v span, HasEffect [] (env.call f v span)

mutual

/-- An expression binds nothing in the innermost frame. -/
theorem Expr.eval_effect {env : Env} (henv : env.CallsHaveEffect) (e : Expr) :
    HasEffect [] (e.eval env) := by
  cases e with
  | identifier name span => exact (hasEffect_getName name _).lift
  | typeRef path => exact (hasEffect_resolve path).lift.bind fun _ => hasEffect_pure _
  | literal l span => exact hasEffect_pure _
  | record fields span =>
      exact (Expr.evalFields_effect henv fields).bind fun _ => (hasEffect_newRecord _).lift
  | list items span =>
      exact (Expr.evalAll_effect henv items).bind fun _ => (hasEffect_newList _).lift
  | binary op left right span =>
      refine (Expr.eval_effect henv left).bind fun l => ?_
      refine (Expr.eval_effect henv right).bind fun r => ?_
      exact hasEffect_get.bind fun s => hasEffect_liftExcept _
  | unary op operand span =>
      exact (Expr.eval_effect henv operand).bind fun v => hasEffect_liftExcept _
  | call callee argument span =>
      refine (Expr.eval_effect henv callee).bind fun f => ?_
      exact (Expr.eval_effect henv argument).bind fun v => (henv f v span).lift
  | callNamed callee arguments span =>
      refine (Expr.eval_effect henv callee).bind fun f => ?_
      refine (Expr.evalFields_effect henv arguments).bind fun fields => ?_
      exact (hasEffect_newRecord fields).lift.bind fun v => (henv f v span).lift
  | field base name span =>
      refine (Expr.eval_effect henv base).bind fun v => ?_
      exact hasEffect_get.bind fun s => hasEffect_liftExcept _
  | index base position span =>
      refine (Expr.eval_effect henv base).bind fun target => ?_
      refine (Expr.eval_effect henv position).bind fun v => ?_
      exact hasEffect_get.bind fun s => hasEffect_liftExcept _
  | select subject arms span =>
      refine (Expr.eval_effect henv subject).bind fun v => ?_
      exact hasEffect_choose (Block.evalArms_effect henv arms)
  | lambda params body span => exact (hasEffect_newLambda params body).lift

/-- The expressions of a list bind nothing. -/
theorem Expr.evalAll_effect {env : Env} (henv : env.CallsHaveEffect) (es : List Expr) :
    HasEffect [] (Expr.evalAll env es) := by
  cases es with
  | nil => exact hasEffect_pure _
  | cons e rest =>
      refine (Expr.eval_effect henv e).bind fun v => ?_
      exact (Expr.evalAll_effect henv rest).bind fun vs => hasEffect_pure _

/-- The expressions of fields bind nothing. -/
theorem Expr.evalFields_effect {env : Env} (henv : env.CallsHaveEffect)
    (fields : List (String × Expr)) : HasEffect [] (Expr.evalFields env fields) := by
  cases fields with
  | nil => exact hasEffect_pure _
  | cons field rest =>
      obtain ⟨name, e⟩ := field
      refine (Expr.eval_effect henv e).bind fun v => ?_
      exact (Expr.evalFields_effect henv rest).bind fun vs => hasEffect_pure _

/-- An optional expression binds nothing. -/
theorem Expr.evalOption_effect {env : Env} (henv : env.CallsHaveEffect) (o : Option Expr) :
    HasEffect [] (Expr.evalOption env o) := by
  cases o with
  | none => exact hasEffect_pure _
  | some e => exact Expr.eval_effect henv e

/-- An arm runs in a frame of its own, so it binds nothing in the frame around it. -/
theorem Block.evalArms_effect {env : Env} (henv : env.CallsHaveEffect)
    (arms : List (Expr × Block)) :
    ∀ alternative ∈ Block.evalArms env arms, ∀ bindings, HasEffect [] (alternative.2 bindings) := by
  cases arms with
  | nil => simp [Block.evalArms]
  | cons arm rest =>
      obtain ⟨pattern, body⟩ := arm
      rw [Block.evalArms, List.forall_mem_cons]
      exact ⟨fun bindings => (Block.eval_effect henv body).withFrame bindings,
        Block.evalArms_effect henv rest⟩

/-- A block binds in the current frame what its own statements define or assign. -/
theorem Block.eval_effect {env : Env} (henv : env.CallsHaveEffect) (b : Block) :
    HasEffect b.targets (b.eval env) := by
  cases b with
  | mk statements tail =>
      refine (Statement.execAll_effect henv statements).bind fun _ => ?_
      exact (Expr.evalOption_effect henv tail).weaken

/-- An optional block runs in a frame of its own. -/
theorem Block.execOption_effect {env : Env} (henv : env.CallsHaveEffect) (o : Option Block) :
    HasEffect [] (Block.execOption env o) := by
  cases o with
  | none => exact hasEffect_pure _
  | some b => exact ((Block.eval_effect henv b).withFrame .empty).discard

/-- A statement binds the name that it defines or assigns. -/
theorem Statement.exec_effect {env : Env} (henv : env.CallsHaveEffect) (st : Statement) :
    HasEffect st.target?.toList (st.exec env) := by
  cases st with
  | const name value span =>
      refine (Expr.eval_effect henv value).weaken.bind fun v => ?_
      exact (hasEffect_define env.policy v span (List.mem_singleton_self name)).lift
  | assign name value span =>
      refine (Expr.eval_effect henv value).weaken.bind fun v => ?_
      exact (hasEffect_assign v _ (List.mem_singleton_self name)).lift
  | classDef decl =>
      refine (hasEffect_newClass decl none).lift.bind fun c => ?_
      refine (hasEffect_define env.policy _ _ (List.mem_singleton_self decl.name)).lift.bind ?_
      exact fun _ => (hasEffect_register _ _).lift.discard
  | groupDef decl =>
      refine (hasEffect_newGroup decl).lift.bind fun g => ?_
      refine (hasEffect_define env.policy _ _ (List.mem_singleton_self decl.name)).lift.bind ?_
      exact fun _ => (hasEffect_register _ _).lift.discard
  | function name arms span =>
      refine (hasEffect_newFunction name arms).lift.bind fun f => ?_
      exact (hasEffect_define env.policy f span (List.mem_singleton_self name)).lift
  | leave value span =>
      exact (Expr.evalOption_effect henv value).bind fun v => hasEffect_throw _
  | branch condition yes no span =>
      refine (Expr.eval_effect henv condition).bind fun c => ?_
      refine (hasEffect_liftExcept _).bind fun b => ?_
      cases b with
      | true => exact ((Block.eval_effect henv yes).withFrame .empty).discard
      | false => exact Block.execOption_effect henv no
  | log value span =>
      refine (Expr.eval_effect henv value).bind fun v => ?_
      exact hasEffect_modify fun s => .log _
  | logType path span =>
      refine (hasEffect_resolve path).lift.bind fun entry => ?_
      exact hasEffect_modify fun s => .log _
  | expression value span => exact (Expr.eval_effect henv value).discard

/-- Statements bind the names that they define or assign themselves. -/
theorem Statement.execAll_effect {env : Env} (henv : env.CallsHaveEffect)
    (statements : List Statement) :
    HasEffect (Statement.targets statements) (Statement.execAll env statements) := by
  cases statements with
  | nil => exact hasEffect_pure _
  | cons st rest =>
      have htargets : Statement.targets (st :: rest) = st.target?.toList ++ Statement.targets rest := by
        rw [Statement.targets, List.filterMap_cons]
        cases st.target? <;> rfl
      rw [htargets]
      refine ((Statement.exec_effect henv st).mono (List.subset_append_left _ _)).bind fun _ => ?_
      exact (Statement.execAll_effect henv rest).mono (List.subset_append_right _ _)

end

/-! ### Calls -/

lemma MatchFunction.apply_effect {env : Env} (henv : env.CallsHaveEffect) (f : MatchFunction)
    (argument : Value) (span : Span) : HasEffect [] (f.apply env argument span) := by
  have hbody : HasEffect [] (choose argument (Block.evalArms env f.arms) span) :=
    hasEffect_choose (Block.evalArms_effect henv f.arms)
  exact (hbody.withScope f.scope).settle

lemma Lambda.apply_effect {env : Env} (henv : env.CallsHaveEffect) (f : Lambda)
    (argument : Value) (span : Span) : HasEffect [] (f.apply env argument span) := by
  refine (hasEffect_bindParams f argument span).bind fun params => ?_
  exact (((Block.eval_effect henv f.body).withFrame params).withScope f.scope).settle

/-- A call binds nothing in the caller's frame: the body of a function runs in the scope of its
definition, and there in a frame of its own. -/
theorem callWithin_effect (config : Config) (room : Nat) (target argument : Value) (span : Span) :
    HasEffect [] (callWithin config room target argument span) := by
  induction room generalizing target argument span with
  | zero =>
      cases target with
      | ofClass c => exact hasEffect_construct c argument span
      | _ => exact hasEffect_throw _
  | succ room ih =>
      have henv : Env.CallsHaveEffect ⟨config.redefinition, callWithin config room⟩ := ih
      cases target with
      | ofClass c => exact hasEffect_construct c argument span
      | function f => exact (f.apply_effect henv argument span).recordingCall f.name span
      | lambda f => exact (f.apply_effect henv argument span).recordingCall Lambda.callee span
      | native f => exact (hasEffect_native f argument _).recordingCall f.name span
      | _ => exact hasEffect_throw _

/-- Evaluation as the evaluator does it has an effect. -/
theorem Config.env_effect (config : Config) (room : Nat) : (config.env room).CallsHaveEffect :=
  callWithin_effect config room

end RecordLang
