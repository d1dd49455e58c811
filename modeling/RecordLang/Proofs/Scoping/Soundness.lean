import RecordLang.Proofs.Scoping.Steps

/-!
A program that passes the scope check never meets an unresolved identifier.

Evaluation of whatever was checked with some names is sound in every state that is ready for these
names. The proof is a recursion on the program text; calls run function bodies whose text is not part of
the caller's, so what they need is handed to it as an assumption, and the number of free places for
calls is the induction that removes it.

* `Expr.eval_sound`, `Block.eval_sound`, `Statement.execAll_sound`: each piece of evaluation.
* `callWithin_sound`: calls, by induction on the free places.
* `run_wellScoped_resolves`: the program as a whole.
-/

namespace RecordLang

/-! ### Evaluation -/

/-- Calls are sound on values that have the invariant. -/
structure Env.CallsSound (env : Env) : Prop where
  effect : env.CallsHaveEffect
  sound : ∀ f v span (s : State), s.store.Scoped → f.Scoped s.store → v.Scoped s.store →
    Sound ScopedResult (env.call f v span s)

section

variable {env : Env}

mutual

/-- An expression checked with names that are in scope reads no other name, and its value has the
invariant. -/
theorem Expr.eval_sound (henv : env.CallsSound) (e : Expr) {visible : List String}
    (he : e.scopedIn visible = true) {s : State} (hs : s.Ready visible) :
    Sound ScopedResult (e.eval env s) := by
  cases e with
  | identifier name span =>
      exact (sound_getName hs (by simpa [Expr.scopedIn] using he) _).lift
  | typeRef path =>
      refine sound_resolve_bind path fun entry => ?_
      cases entry <;> exact ⟨hs.store, trivial⟩
  | literal l span => cases l <;> exact ⟨hs.store, trivial⟩
  | record fields span =>
      refine (Expr.evalFields_sound henv fields he hs).bind
        (Expr.evalFields_effect henv.effect fields) fun vs t _ hvs => ?_
      exact (sound_newRecord hvs.1 hvs.2).lift
  | list items span =>
      refine (Expr.evalAll_sound henv items he hs).bind
        (Expr.evalAll_effect henv.effect items) fun vs t _ hvs => ?_
      exact (sound_newList hvs.1 hvs.2).lift
  | binary op left right span =>
      obtain ⟨hleft, hright⟩ := Bool.and_eq_true_iff.mp he
      refine (Expr.eval_sound henv left hleft hs).bind (Expr.eval_effect henv.effect left)
        fun l t ht hl => ?_
      refine (Expr.eval_sound henv right hright (hs.after ht hl.1)).bind
        (Expr.eval_effect henv.effect right) fun r u _ hr => ?_
      exact sound_liftExcept (blames_binary (List.mem_singleton_self _) _ op l r) fun w hw =>
        ⟨hr.1, .of_isAtom (isAtom_of_binary hw)⟩
  | unary op operand span =>
      refine (Expr.eval_sound henv operand he hs).bind (Expr.eval_effect henv.effect operand)
        fun v t _ hv => ?_
      exact sound_liftExcept (blames_unary (List.mem_singleton_self _) op v) fun w hw =>
        ⟨hv.1, .of_isAtom (isAtom_of_unary hw)⟩
  | call callee argument span =>
      obtain ⟨hcallee, hargument⟩ := Bool.and_eq_true_iff.mp he
      refine (Expr.eval_sound henv callee hcallee hs).bind (Expr.eval_effect henv.effect callee)
        fun f t ht hf => ?_
      refine (Expr.eval_sound henv argument hargument (hs.after ht hf.1)).bind
        (Expr.eval_effect henv.effect argument) fun v u hu hv => ?_
      exact (henv.sound f v span u hv.1 (hf.2.mono hu.keepsNames) hv.2).lift
  | callNamed callee arguments span =>
      obtain ⟨hcallee, harguments⟩ := Bool.and_eq_true_iff.mp he
      refine (Expr.eval_sound henv callee hcallee hs).bind (Expr.eval_effect henv.effect callee)
        fun f t ht hf => ?_
      refine (Expr.evalFields_sound henv arguments harguments (hs.after ht hf.1)).bind
        (Expr.evalFields_effect henv.effect arguments) fun vs u hu hvs => ?_
      refine (sound_newRecord hvs.1 hvs.2).lift.bind (hasEffect_newRecord vs).lift
        fun v w (hw : Effect [] u none w) hv => ?_
      have hf' := (hf.2.mono hu.keepsNames).mono hw.keepsNames
      exact (henv.sound f v span w hv.1 hf' hv.2).lift
  | field base name span =>
      refine (Expr.eval_sound henv base he hs).bind (Expr.eval_effect henv.effect base)
        fun v t _ hv => ?_
      exact sound_liftExcept (blames_readField (List.mem_singleton_self _) _ v name) fun w hw =>
        ⟨hv.1, scoped_readField hv.1 hw⟩
  | index base position span =>
      obtain ⟨hbase, hposition⟩ := Bool.and_eq_true_iff.mp he
      refine (Expr.eval_sound henv base hbase hs).bind (Expr.eval_effect henv.effect base)
        fun target t ht htarget => ?_
      refine (Expr.eval_sound henv position hposition (hs.after ht htarget.1)).bind
        (Expr.eval_effect henv.effect position) fun v u _ hv => ?_
      exact sound_liftExcept (blames_readIndex (List.mem_singleton_self _) _ target v) fun w hw =>
        ⟨hv.1, hv.1 w (holds_of_readIndex hw)⟩
  | select subject arms span =>
      obtain ⟨hsubject, harms⟩ := Bool.and_eq_true_iff.mp he
      refine (Expr.eval_sound henv subject hsubject hs).bind (Expr.eval_effect henv.effect subject)
        fun v t ht hv => ?_
      exact sound_choose (hs.after ht hv.1) hv.2 (Block.evalArms_sound henv arms harms) span
  | lambda params body span => exact (sound_newLambda hs he).lift

theorem Expr.evalAll_sound (henv : env.CallsSound) (es : List Expr) {visible : List String}
    (hes : Expr.scopedAll visible es = true) {s : State} (hs : s.Ready visible) :
    Sound (fun vs t => t.store.Scoped ∧ ∀ v ∈ vs, v.Scoped t.store) (Expr.evalAll env es s) := by
  cases es with
  | nil => exact ⟨hs.store, by simp⟩
  | cons e rest =>
      obtain ⟨he, hrest⟩ := Bool.and_eq_true_iff.mp hes
      refine (Expr.eval_sound henv e he hs).bind (Expr.eval_effect henv.effect e) fun v t ht hv => ?_
      refine (Expr.evalAll_sound henv rest hrest (hs.after ht hv.1)).bind
        (Expr.evalAll_effect henv.effect rest) fun vs u hu hvs => ?_
      exact ⟨hvs.1, List.forall_mem_cons.mpr ⟨hv.2.mono hu.keepsNames, hvs.2⟩⟩

theorem Expr.evalFields_sound (henv : env.CallsSound) (fields : List (String × Expr))
    {visible : List String} (hfields : Expr.scopedFields visible fields = true) {s : State}
    (hs : s.Ready visible) :
    Sound (fun vs t => t.store.Scoped ∧ ∀ field ∈ vs, field.2.Scoped t.store)
      (Expr.evalFields env fields s) := by
  cases fields with
  | nil => exact ⟨hs.store, by simp⟩
  | cons field rest =>
      obtain ⟨name, e⟩ := field
      obtain ⟨he, hrest⟩ := Bool.and_eq_true_iff.mp hfields
      refine (Expr.eval_sound henv e he hs).bind (Expr.eval_effect henv.effect e) fun v t ht hv => ?_
      refine (Expr.evalFields_sound henv rest hrest (hs.after ht hv.1)).bind
        (Expr.evalFields_effect henv.effect rest) fun vs u hu hvs => ?_
      exact ⟨hvs.1, List.forall_mem_cons.mpr ⟨hv.2.mono hu.keepsNames, hvs.2⟩⟩

theorem Expr.evalOption_sound (henv : env.CallsSound) (o : Option Expr) {visible : List String}
    (ho : Expr.scopedOption visible o = true) {s : State} (hs : s.Ready visible) :
    Sound ScopedResult (Expr.evalOption env o s) := by
  cases o with
  | none => exact ⟨hs.store, trivial⟩
  | some e => exact Expr.eval_sound henv e ho hs

/-- An arm runs in a frame that adds the names of its pattern to those around it. -/
theorem Block.evalArms_sound (henv : env.CallsSound) (arms : List (Expr × Block))
    {visible : List String} (harms : Block.scopedArms visible arms = true) :
    AlternativesSound visible (Block.evalArms env arms) := by
  cases arms with
  | nil => simp [Block.evalArms, AlternativesSound]
  | cons arm rest =>
      obtain ⟨pattern, body⟩ := arm
      obtain ⟨hbody, hrest⟩ := Bool.and_eq_true_iff.mp harms
      rw [Block.evalArms, AlternativesSound, List.forall_mem_cons]
      refine ⟨fun bindings s hs hbound hscoped => ?_, Block.evalArms_sound henv rest hrest⟩
      have hready : (s.enterFrame bindings).Ready (Pattern.visible pattern ++ visible) :=
        .enterFrame hs.store hscoped fun x hx => (List.mem_append.mp hx).imp (hbound x) (hs.sees x)
      exact (Block.eval_sound henv body hbody hready (s.hasFrame_top_enterFrame bindings)).withFrame
        (Block.eval_effect henv.effect body)

/-- A block runs in a frame that exists, so that its definitions come into scope. -/
theorem Block.eval_sound (henv : env.CallsSound) (b : Block) {visible : List String}
    (hb : b.scopedIn visible = true) {s : State} (hs : s.Ready visible)
    (htop : s.store.HasFrame s.scope.top) : Sound ScopedResult (b.eval env s) := by
  cases b with
  | mk statements tail =>
      obtain ⟨hstatements, htail⟩ := Bool.and_eq_true_iff.mp hb
      refine (Statement.execAll_sound henv statements hstatements hs htop).bind
        (Statement.execAll_effect henv.effect statements) fun _ t _ ht => ?_
      exact Expr.evalOption_sound henv tail htail ht

theorem Block.execOption_sound (henv : env.CallsSound) (o : Option Block) {visible : List String}
    (ho : Block.scopedOption visible o = true) {s : State} (hs : s.Ready visible) :
    Sound (fun _ => State.Ready visible) (Block.execOption env o s) := by
  cases o with
  | none => exact hs
  | some b =>
      exact sound_innerBlock hs (Block.eval_effect henv.effect b) fun t ht htop =>
        Block.eval_sound henv b ho ht htop

/-- Behind a statement the name that it declares is in scope as well. -/
theorem Statement.exec_sound (henv : env.CallsSound) (st : Statement) {visible : List String}
    (hst : st.scopedIn visible = true) {s : State} (hs : s.Ready visible)
    (htop : s.store.HasFrame s.scope.top) :
    Sound (fun _ => State.Ready (st.declared ++ visible)) (st.exec env s) := by
  cases st with
  | const name value span =>
      refine (Expr.eval_sound henv value hst hs).bind (Expr.eval_effect henv.effect value)
        fun v t ht hv => ?_
      have htop' := ht.hasFrame_top htop
      refine (sound_define (hs.after ht hv.1) htop' env.policy ?_ span).lift
      exact hv.2.mono fun _ _ hx => Store.contains_frame_bind hx _ _ _
  | assign name value span =>
      obtain ⟨hname, hvalue⟩ := Bool.and_eq_true_iff.mp hst
      refine (Expr.eval_sound henv value hvalue hs).bind (Expr.eval_effect henv.effect value)
        fun v t ht hv => ?_
      have htop' := ht.hasFrame_top htop
      exact (sound_assign (hs.after ht hv.1) htop' (by simpa using hname) hv.2 _).lift
  | classDef decl =>
      exact sound_defineType hs htop (hasEffect_newClass decl none) (hs.store.nextId _) env.policy
        Value.ofClass (fun _ _ => trivial) TypeEntry.ofClass decl.span
  | groupDef decl =>
      exact sound_defineType hs htop (hasEffect_newGroup decl) (hs.store.newGroup decl) env.policy
        Value.ofGroup (fun _ _ => trivial) TypeEntry.ofGroup decl.span
  | function name arms span =>
      refine (sound_newFunction hs.store name hst).lift.bind (hasEffect_newFunction name arms).lift
        fun f t (ht : Effect [] s none t) hf => ?_
      have hready := hs.after ht hf.1
      have htop' := ht.hasFrame_top htop
      -- The arms may use the function's own name, which is in scope only once it is bound.
      exact (sound_define hready htop' env.policy (hf.2 _ (hready.sees_bindTop htop')) span).lift
  | leave value span =>
      exact (Expr.evalOption_sound henv value hst hs).bind
        (Expr.evalOption_effect henv.effect value) fun v t _ hv => hv
  | branch condition yes no span =>
      simp only [Statement.scopedIn, Bool.and_eq_true] at hst
      obtain ⟨⟨hcondition, hyes⟩, hno⟩ := hst
      refine (Expr.eval_sound henv condition hcondition hs).bind
        (Expr.eval_effect henv.effect condition) fun c t ht hc => ?_
      have hs' := hs.after ht hc.1
      refine sound_liftExcept_bind (blames_expectBoolean (List.mem_singleton_self _) c) fun b _ => ?_
      cases b with
      | true =>
          exact sound_innerBlock hs' (Block.eval_effect henv.effect yes) fun u hu htop' =>
            Block.eval_sound henv yes hyes hu htop'
      | false => exact Block.execOption_sound henv no hno hs'
  | log value span =>
      exact (Expr.eval_sound henv value hst hs).bind (Expr.eval_effect henv.effect value)
        fun v t ht hv => hs.after (ht.seq (.log _)) hv.1
  | logType path span => exact sound_resolve_bind path fun entry => ⟨hs.store, hs.sees⟩
  | expression value span =>
      have hvalue := (Expr.eval_sound henv value hst hs).mono fun _ _ h => h.1
      exact hvalue.discard.ready hs (Expr.eval_effect henv.effect value).discard

/-- Behind statements all the names that they declare are in scope. -/
theorem Statement.execAll_sound (henv : env.CallsSound) (statements : List Statement)
    {visible : List String} (hstatements : Statement.scopedAll visible statements = true) {s : State}
    (hs : s.Ready visible) (htop : s.store.HasFrame s.scope.top) :
    Sound (fun _ => State.Ready (Statement.visibleAfter visible statements))
      (Statement.execAll env statements s) := by
  cases statements with
  | nil => exact hs
  | cons st rest =>
      obtain ⟨hst, hrest⟩ := Bool.and_eq_true_iff.mp hstatements
      refine (Statement.exec_sound henv st hst hs htop).bind
        (Statement.exec_effect henv.effect st) fun _ t ht hready => ?_
      have htop' := ht.hasFrame_top htop
      exact Statement.execAll_sound henv rest hrest hready htop'

end

/-! ### Calls -/

/-- The scope of a function has the names its arms were checked with. -/
lemma MatchFunction.apply_sound (henv : env.CallsSound) {f : MatchFunction} {s : State}
    (hst : s.store.Scoped) (hf : (Value.function f).Scoped s.store) {argument : Value}
    (hargument : argument.Scoped s.store) (span : Span) :
    Sound ScopedResult (f.apply env argument span s) := by
  obtain ⟨visible, hsees, harms⟩ := hf
  have hready : State.Ready visible { s with scope := f.scope } := ⟨hst, hsees⟩
  exact (sound_choose hready hargument (Block.evalArms_sound henv f.arms harms) span).withScope.settle

/-- The frame of the parameters and the scope of a lambda together have the names its body was checked
with. -/
lemma Lambda.apply_sound (henv : env.CallsSound) {f : Lambda} {s : State}
    (hst : s.store.Scoped) (hf : (Value.lambda f).Scoped s.store) (argument : Value) (span : Span) :
    Sound ScopedResult (f.apply env argument span s) := by
  obtain ⟨visible, hsees, hbody⟩ := hf
  refine (sound_bindParams hst f argument span).bind (hasEffect_bindParams f argument span)
    fun params t (ht : Effect [] s none t) ⟨hst', hscoped, hbound⟩ => ?_
  have hready : (State.enterFrame { t with scope := f.scope } params).Ready visible :=
    .enterFrame hst' hscoped fun x hx =>
      (hsees x hx).imp (hbound x) fun h => h.mono ht.keepsNames
  have hvalue := Block.eval_sound henv f.body hbody hready (State.hasFrame_top_enterFrame _ params)
  exact (hvalue.withFrame (Block.eval_effect henv.effect f.body)).withScope.settle

end

/-- A call of a value that has the invariant is sound. -/
theorem callWithin_sound (config : Config) (room : Nat) (target argument : Value) (span : Span)
    (s : State) (hst : s.store.Scoped) (htarget : target.Scoped s.store)
    (hargument : argument.Scoped s.store) :
    Sound ScopedResult (callWithin config room target argument span s) := by
  induction room generalizing target argument span s with
  | zero =>
      cases target with
      | ofClass c => exact sound_construct hst c argument span
      | _ => exact id
  | succ room ih =>
      have henv : Env.CallsSound ⟨config.redefinition, callWithin config room⟩ :=
        ⟨callWithin_effect config room, ih⟩
      -- The record of the call is no part of the store, so the invariant holds below it as well.
      cases target with
      | ofClass c => exact sound_construct hst c argument span
      | function f =>
          refine Sound.recordingCall ?_ (f.apply_effect henv.effect argument span)
          apply f.apply_sound henv <;> assumption
      | lambda f =>
          refine Sound.recordingCall ?_ (f.apply_effect henv.effect argument span)
          apply f.apply_sound henv <;> assumption
      | native f =>
          refine Sound.recordingCall ?_ (hasEffect_native f argument _)
          apply sound_native
          exact hst
      | _ => exact id

theorem Config.env_sound (config : Config) (room : Nat) : (config.env room).CallsSound :=
  ⟨callWithin_effect config room, callWithin_sound config room⟩

/-! ### Programs -/

/-- At the start the native functions are in scope, and nothing else is stored. -/
lemma ready_initial : State.initial.Ready Native.prelude.keys := by
  have hempty : ({} : Store).Scoped := fun v hv => absurd hv Store.not_holds_empty
  refine ⟨hempty.newFrame fun x v hv => ?_, fun x hx => ⟨⟨0⟩, List.mem_singleton_self _, ?_⟩⟩
  · obtain ⟨f, -, hf⟩ := List.mem_map.mp (Table.mem_of_find?_ofList hv)
    cases hf
    trivial
  · exact (Table.find?_isSome Native.prelude x).mpr hx

/-- Reporting an error logs lines and puts the error on the console, unless one is there. -/
lemma failure_reportFailure (s : State) (e : Error) :
    (s.reportFailure e).console.failure = s.console.failure.or (some e) := by
  have hlines : ∀ (calls : List CallFrame) (console : Console),
      (calls.foldl (fun console call => console.log ["  at", call.callee]) console).failure
        = console.failure := by
    intro calls
    induction calls with
    | nil => exact fun _ => rfl
    | cons call rest ih => exact fun console => ih _
  show (Option.or _ _) = _
  rw [hlines]
  rfl

/-- **Scoping is sound.** A program that passes the scope check, run from the initial state with any
settings, reports no unresolved identifier, neither to the host nor on the console. -/
theorem run_wellScoped_resolves (config : Config) (program : Program) (h : WellScoped program)
    (name : String) (span : Option Span) :
    (run config program .initial).1 ≠ .failed (.fault (.unresolvedIdentifier name) span) ∧
      (run config program .initial).2.console.failure
        ≠ some (.fault (.unresolvedIdentifier name) span) := by
  have henv := config.env_sound (State.initial.room config)
  have hsound := Statement.execAll_sound henv program h ready_initial (by decide)
  have hfailure := (Statement.execAll_effect henv.effect program .initial).failure_eq
  rw [run, execute]
  rcases hs : Statement.execAll (config.env (State.initial.room config)) program .initial with
    ⟨⟨⟩, t⟩ | ⟨i, t⟩
  · rw [hs] at hfailure
    have hnone : t.console.failure = none := hfailure
    exact ⟨by simp, by simp [hnone]⟩
  · rw [hs] at hsound hfailure
    have hnone : t.console.failure = none := hfailure
    cases i with
    | returned v => exact ⟨by simp, by simp [hnone]⟩
    | failed e =>
        have hne : e ≠ .fault (.unresolvedIdentifier name) span := by
          rintro rfl
          exact hsound trivial
        refine ⟨by simpa using hne, ?_⟩
        rw [failure_reportFailure, hnone]
        simpa using hne

/-- A function that calls itself without end through its own name, and a lambda that calls it with its
parameter: whatever stops the program, it is no unresolved identifier. -/
theorem run_endless_recursion_resolves :
    let id (name : String) : Expr := .identifier name default
    let program : Program :=
      [.function "loop" [(id "n", .mk [] (some (.call (id "loop") (id "n") default)))] default,
        .const "start" (.lambda [("x", none)] (.mk [] (some (.call (id "loop") (id "x") default)))
          default) default,
        .expression (.callNamed (id "start") [("x", id "push")] default) default]
    WellScoped program ∧ ∀ config name span,
      (run config program .initial).1 ≠ .failed (.fault (.unresolvedIdentifier name) span) := by
  intro id program
  have h : WellScoped program := by decide
  exact ⟨h, fun config name span => (run_wellScoped_resolves config program h name span).1⟩

end RecordLang
