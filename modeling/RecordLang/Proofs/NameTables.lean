import RecordLang.Proofs.Discipline

/-!
The two tables of names.

A class or group is entered in two tables: its name is bound in the innermost frame, like that of any
constant, and then registered as a type name. Between the two steps stands a check that can fail. Where
redefinitions are errors, types are defined at the top level only and no assignment there takes the name
of one, the tables agree between any two statements: what a type name stands for is what the base frame
binds to it. A definition that is refused has changed neither table.

* `State.TablesAgree`: every registered name is bound in the base frame to what is registered.
* `typesFixed`: text without definitions of types leaves the registry alone.
* `Statement.exec_typeDef`: what the definition of a type does where redefinitions are errors.
* `Statement.frame_exec_of_inTop`: a name that is defined already cannot be defined.
* `State.AtBoundary`: the invariant between statements of the top level.
* `name_tables_agree`: the main statement, for runs on a fresh interpreter.
-/

namespace RecordLang

/-- Every registered name is bound in the base frame to the class or group that is registered. -/
def State.TablesAgree (s : State) : Prop :=
  ∀ x entry, s.types.find? x = some entry → s.globals.find? x = some entry.toValue

/-- The name to which a statement assigns, if it does. -/
def Statement.assigned? : Statement → Option String
  | .assign name _ _ => some name
  | _ => none

/-- The names of the classes and groups that programs define at the top level. -/
def typeNames (programs : List Program) : List String :=
  programs.flatMap fun program => program.filterMap Statement.typeName?

/-! ### Text without definitions of types -/

/-- The piece of text defines no type. -/
def Task.DefinesNoType (piece : Task) : Prop :=
  piece.typeName? = none

/-- No text defines a type, so the registry stays as it is. -/
def typesFixed (types₀ : Registry) : Discipline where
  value _ v := v.Every Task.DefinesNoType
  text task := task.Every Task.DefinesNoType
  push _ _ _ := True
  store _ := True
  types types := types = types₀

lemma lawful_typesFixed (types₀ : Registry) : (typesFixed types₀).Lawful where
  part htext hpart := htext.part hpart
  inner htext hinner := htext.inner hinner
  body hv hbody := hv _ hbody
  atom h := .of_isAtom h
  type _ entry := Value.every_toValue entry
  object := ⟨fun _ => .of_bodies_eq_nil rfl, fun _ => .of_bodies_eq_nil rfl⟩
  closure htext _ hbodies := fun body hbody => htext.body (hbodies body hbody)
  value_congr _ hv := hv
  store_congr _ _ := trivial
  register {_ st name} _ htext hname _ := by
    have hnone : st.typeName? = none := htext.statement
    rw [hname] at hnone
    cases hnone
  list _ _ := ⟨trivial, fun _ hv => hv, .of_bodies_eq_nil rfl⟩
  record _ _ := ⟨trivial, fun _ hv => hv, .of_bodies_eq_nil rfl⟩
  append _ _ _ _ := ⟨trivial, fun _ hv => hv⟩

/-! ### Definitions where redefinitions are errors -/

lemma define_strict (name : String) (v : Value) (span : Span) (s : State) :
    define .strict name v span s =
      if s.inTop name then .error (.fault (.redefinition name) (some span)) s
      else .ok () (s.bindTop name v) := by
  rw [define, get_bind_apply]
  split <;> rfl

/-- The state in which the numbers below `n` have been handed out. -/
def State.numbered (s : State) (n : Nat) : State :=
  { s with store := { s.store with nextId := n } }

/-- The state with a class or group entered in both tables. -/
def State.enterType (s : State) (name : String) (entry : TypeEntry) : State :=
  { s.bindTop name entry.toValue with types := s.types.insert name entry }

/-- A new thing, made of numbers only, is defined and registered: if the name is free it is entered in
both tables, else in none. -/
lemma defineType_strict {α : Type} {add : Store → α × Store} (name : String) (entry : α → TypeEntry)
    (span : Span) {s : State} {n : Nat} (hadd : (add s.store).2 = { s.store with nextId := n }) :
    (do
      let a ← make add
      define .strict name (entry a).toValue span
      discard (register name (entry a)) : Eval Unit) s =
      if s.inTop name then .error (.failed (.fault (.redefinition name) (some span))) (s.numbered n)
      else .ok () ((s.numbered n).enterType name (entry (add s.store).1)) := by
  have hrest : (do
        let a ← make add
        define .strict name (entry a).toValue span
        discard (register name (entry a)) : Eval Unit) s =
      (do
        define .strict name (entry (add s.store).1).toValue span
        discard (register name (entry (add s.store).1)) : Eval Unit) (s.numbered n) := by
    rw [State.numbered, ← hadd]
    rfl
  have htop : (s.numbered n).inTop name = s.inTop name := rfl
  rw [hrest, bind_apply, lift_apply, define_strict, htop]
  cases s.inTop name <;> rfl

/-- **The definition of a type.** If the name is defined already, it fails and takes no more than
numbers; else it enters a class or group in both tables. -/
lemma Statement.exec_typeDef {env : Env} (hpolicy : env.policy = .strict) {st : Statement}
    {name : String} (hname : st.typeName? = some name) (s : State) :
    ∃ n entry e, st.exec env s =
      if s.inTop name then .error e (s.numbered n) else .ok () ((s.numbered n).enterType name entry) := by
  cases st with
  | classDef decl =>
      cases hname
      have hadd : (s.store.newClass decl none).2 = { s.store with nextId := s.store.nextId + 1 } := rfl
      rw [Statement.exec, hpolicy]
      exact ⟨_, _, _, defineType_strict decl.name TypeEntry.ofClass decl.span hadd⟩
  | groupDef decl =>
      cases hname
      rw [Statement.exec, hpolicy]
      exact ⟨_, _, _, defineType_strict decl.name TypeEntry.ofGroup decl.span (newGroup_snd decl _)⟩
  | _ => cases hname

/-- A name that is bound in the innermost frame cannot be defined there: the definition of a constant or
a function fails, and no frame has changed. -/
lemma Statement.frame_exec_of_inTop {env : Env} (henv : env.CallsHaveEffect)
    (hpolicy : env.policy = .strict) {st : Statement} {name : String} (hname : st.target? = some name)
    (hassigned : st.assigned? = none) (htype : st.typeName? = none) {s : State}
    (htop : s.inTop name = true) (hframe : s.store.HasFrame s.scope.top) {r : FrameRef}
    (hr : s.store.HasFrame r) :
    (finalState (st.exec env s)).store.frame r = s.store.frame r := by
  cases st with
  | const x value span =>
      cases hname
      have heffect := Expr.eval_effect henv value s
      rw [Statement.exec, bind_apply, hpolicy]
      cases hv : value.eval env s with
      | error i t =>
          rw [hv] at heffect
          exact heffect.frame_eq hr fun _ => rfl
      | ok v t =>
          rw [hv] at heffect
          have hscope : t.scope = s.scope := heffect.scope_eq
          have hkept : t.store.frame s.scope.top = s.store.frame s.scope.top :=
            heffect.frame_eq hframe fun _ => rfl
          have htop' : t.inTop name = true := by
            rw [State.inTop, hscope, hkept]
            exact htop
          dsimp only
          rw [lift_apply, define_strict, if_pos htop']
          exact heffect.frame_eq hr fun _ => rfl
  | function x arms span =>
      cases hname
      have hfunction : Statement.exec env (.function name arms span) s =
          (liftM (define .strict name (.function ⟨s.store.nextId, name, arms, s.scope⟩) span) :
            Eval Unit) { s with store := { s.store with nextId := s.store.nextId + 1 } } := by
        rw [Statement.exec, hpolicy]
        rfl
      rw [hfunction, lift_apply, define_strict, if_pos]
      · rfl
      · exact htop
  | assign x value span => cases hassigned
  | classDef decl => cases htype
  | groupDef decl => cases htype
  | _ => cases hname

/-! ### Between statements -/

/-- What holds between statements of the top level: only the base frame is in scope, stored functions
define no types, the registered names are among `names`, and the tables agree. -/
structure State.AtBoundary (names : List String) (s : State) : Prop where
  scope : s.scope = State.initial.scope
  hasFrame : s.store.HasFrame s.scope.base
  held : ∀ v, s.store.Holds v → v.Every Task.DefinesNoType
  registered : ∀ x entry, s.types.find? x = some entry → x ∈ names
  agree : s.TablesAgree

/-- A statement that may stand at the top level if the types defined are among `names`: no type is
defined inside of it, and it assigns to no type. -/
structure Statement.SuitsTopLevel (names : List String) (st : Statement) : Prop where
  inside : ∀ piece ∈ st.inside, piece.DefinesNoType
  typeName : ∀ x ∈ st.typeName?, x ∈ names
  assigned : ∀ x ∈ st.assigned?, x ∉ names

section

variable {config : Config} {names : List String} {s : State}

/-- Between statements the innermost frame is the base frame. -/
lemma State.AtBoundary.top_eq (hs : s.AtBoundary names) : s.scope.top = s.scope.base := by
  rw [hs.scope]
  rfl

/-- A registered name is bound in the innermost frame. -/
lemma State.AtBoundary.inTop (hs : s.AtBoundary names) {x : String} {entry : TypeEntry}
    (hx : s.types.find? x = some entry) : s.inTop x = true := by
  rw [State.inTop, hs.top_eq, Table.contains]
  rw [show (s.store.frame s.scope.base).find? x = _ from hs.agree x entry hx]
  rfl

lemma State.AtBoundary.numbered (hs : s.AtBoundary names) (n : Nat) : (s.numbered n).AtBoundary names :=
  ⟨hs.scope, hs.hasFrame, fun v hv => hs.held v (Store.holds_nextId hv), hs.registered, hs.agree⟩

/-- A type that is entered in both tables. -/
lemma State.AtBoundary.enterType (hs : s.AtBoundary names) {name : String} (hname : name ∈ names)
    (entry : TypeEntry) : (s.enterType name entry).AtBoundary names := by
  have htypes : ∀ x, (s.enterType name entry).types.find? x
      = if x = name then some entry else s.types.find? x :=
    fun x => Table.find?_insert s.types name entry x
  have hglobals : ∀ x, (s.enterType name entry).globals.find? x
      = if x = name then some entry.toValue else s.globals.find? x := by
    intro x
    show ((s.store.bind s.scope.top name entry.toValue).frame s.scope.base).find? x = _
    rw [hs.top_eq, Store.frame_bind _ _ _ _ _ hs.hasFrame, if_pos rfl, Table.find?_insert]
    rfl
  refine ⟨hs.scope, ?_, fun v hv => ?_, fun x entry' hx => ?_, fun x entry' hx => ?_⟩
  · show s.scope.base.index < (s.store.bind s.scope.top name entry.toValue).frames.size
    rw [Store.size_frames_bind]
    exact hs.hasFrame
  · obtain hold | rfl := Store.holds_bind hv
    · exact hs.held v hold
    · cases entry <;> exact .of_bodies_eq_nil rfl
  · rw [htypes] at hx
    split_ifs at hx with heq
    · rw [heq]
      exact hname
    · exact hs.registered x entry' hx
  · rw [htypes] at hx
    rw [hglobals]
    split_ifs at hx ⊢ with heq
    · cases hx
      rfl
    · exact hs.agree x entry' hx

/-- The definition of a type enters it in both tables, or in none. -/
lemma State.AtBoundary.exec_typeDef (hs : s.AtBoundary names) (hstrict : config.redefinition = .strict)
    {st : Statement} {name : String} (hname : st.typeName? = some name) (hmem : name ∈ names) :
    (finalState (st.exec (s.env config) s)).AtBoundary names := by
  have hpolicy : (s.env config).policy = .strict := hstrict
  obtain ⟨n, entry, e, hexec⟩ := Statement.exec_typeDef hpolicy hname s
  rw [hexec]
  split
  · exact hs.numbered n
  · exact (hs.numbered n).enterType hmem entry

/-- Any other statement leaves the registry alone, and in the base frame all that is registered. -/
lemma State.AtBoundary.exec_other (hs : s.AtBoundary names) (hstrict : config.redefinition = .strict)
    {st : Statement} (hst : st.SuitsTopLevel names) (htype : st.typeName? = none) :
    (finalState (st.exec (s.env config) s)).AtBoundary names := by
  have henv := s.env_effect config
  have heffect := Statement.exec_effect henv st s
  have htext : Task.Every Task.DefinesNoType (.statement st) :=
    List.forall_mem_cons.mpr ⟨htype, hst.inside⟩
  have hfollows : Job.Follows config (typesFixed s.types) ⟨.statement st, s⟩ :=
    ⟨⟨hs.held, trivial, rfl⟩, htext, fun _ _ _ _ _ => trivial⟩
  have hfinal : finalState (Job.outcome config ⟨.statement st, s⟩)
      = finalState (st.exec (s.env config) s) := by
    show finalState ((st.exec (s.env config) >>= fun _ => pure Value.nil : Eval Value) s) = _
    rw [bind_apply]
    cases st.exec (s.env config) s <;> rfl
  obtain ⟨hleads, -⟩ := (lawful_typesFixed s.types).kept hfollows
  rw [hfinal] at hleads
  have htypes : (finalState (st.exec (s.env config) s)).types = s.types := hleads.follows.types
  refine ⟨heffect.scope_eq.trans hs.scope, ?_, hleads.follows.held, ?_, ?_⟩
  · rw [heffect.scope_eq]
    exact heffect.hasFrame hs.hasFrame
  · rw [htypes]
    exact hs.registered
  · intro x entry hx
    rw [htypes] at hx
    have hglobals : (finalState (st.exec (s.env config) s)).globals.find? x = s.globals.find? x := by
      rw [State.globals, heffect.scope_eq]
      by_cases htarget : st.target? = some x
      · have hassigned : st.assigned? = none := by
          by_contra hsome
          have hx' : st.assigned? = some x := by
            cases st with
            | assign name value span => exact htarget
            | _ => exact absurd rfl hsome
          exact hst.assigned x hx' (hs.registered x entry hx)
        rw [State.globals, Statement.frame_exec_of_inTop henv hstrict htarget hassigned htype
          (hs.inTop hx) (hs.top_eq.symm ▸ hs.hasFrame) hs.hasFrame]
      · refine heffect.find?_eq hs.hasFrame fun hmem => htarget ?_
        exact Option.mem_toList.mp hmem
    rw [hglobals]
    exact hs.agree x entry hx

/-- **One statement.** However it ends, the tables agree behind it. -/
theorem State.AtBoundary.exec (hs : s.AtBoundary names) (hstrict : config.redefinition = .strict)
    {st : Statement} (hst : st.SuitsTopLevel names) :
    (finalState (st.exec (s.env config) s)).AtBoundary names := by
  cases htype : st.typeName? with
  | some name => exact hs.exec_typeDef hstrict htype (hst.typeName name htype)
  | none => exact hs.exec_other hstrict hst htype

/-- Statements, one after the other. -/
lemma State.AtBoundary.execAll {s₀ : State} (hs : s.AtBoundary names)
    (hstrict : config.redefinition = .strict) {sts : List Statement}
    (hsts : ∀ st ∈ sts, st.SuitsTopLevel names) (hcalls : s.calls = s₀.calls) :
    (finalState (Statement.execAll (s₀.env config) sts s)).AtBoundary names := by
  induction sts generalizing s with
  | nil => exact hs
  | cons st rest ih =>
      obtain ⟨hst, hrest⟩ := List.forall_mem_cons.mp hsts
      have hfirst := hs.exec hstrict hst
      have heffect := Statement.exec_effect (s₀.env_effect config) st s
      rw [State.env_eq hcalls] at hfirst
      rw [Statement.execAll, bind_apply]
      cases hexec : st.exec (s₀.env config) s with
      | error i t =>
          rw [hexec] at hfirst
          exact hfirst
      | ok _ t =>
          rw [hexec] at hfirst heffect
          exact ih hfirst hrest (heffect.calls_of_settled.trans hcalls)

/-- A program; what is reported about a failure leaves both tables alone. -/
lemma State.AtBoundary.run (hs : s.AtBoundary names) (hstrict : config.redefinition = .strict)
    {program : Program} (hprogram : ∀ st ∈ program, st.SuitsTopLevel names) :
    (run config program s).2.AtBoundary names := by
  have hfinal : (finalState (execute config program s)).AtBoundary names :=
    hs.execAll hstrict hprogram rfl
  rw [RecordLang.run]
  rcases hexecute : execute config program s with ⟨⟨⟩, t⟩ | ⟨v | e, t⟩ <;> rw [hexecute] at hfinal
  · exact hfinal
  · exact hfinal
  · exact ⟨hfinal.scope, hfinal.hasFrame, hfinal.held, hfinal.registered, hfinal.agree⟩

lemma atBoundary_initial (names : List String) : State.initial.AtBoundary names := by
  have hinitial := (lawful_typesFixed .empty).follows_initial trivial rfl
  exact ⟨rfl, by decide, hinitial.held, fun x entry hx => absurd hx (by rintro ⟨⟩),
    fun x entry hx => absurd hx (by rintro ⟨⟩)⟩

/-- Programs on a fresh interpreter. -/
lemma atBoundary_runAll (hstrict : config.redefinition = .strict) {programs : List Program}
    (hprograms : ∀ program ∈ programs, ∀ st ∈ program, st.SuitsTopLevel names) :
    (runAll config programs .initial).2.AtBoundary names := by
  induction programs using List.reverseRecOn with
  | nil => exact atBoundary_initial names
  | append_singleton programs program ih =>
      rw [runAll_append_singleton]
      refine State.AtBoundary.run (ih fun p hp => hprograms p (List.mem_append_left _ hp)) hstrict ?_
      exact hprograms program (by simp)

end

/-- **The two tables of names agree.** Let redefinitions be errors, and run programs on a fresh
interpreter in which types are defined inside of no statement and no assignment of the top level takes
the name of a type that they define. Then

* after every run, failed or not, every registered name is bound in the base frame to exactly the class
  or group that is registered;
* so it is between any two statements of a program;
* and a definition of a type that fails there has left both tables as they were. -/
theorem name_tables_agree (config : Config) (hstrict : config.redefinition = .strict)
    (programs : List Program)
    (hinside : ∀ program ∈ programs, ∀ st ∈ program, ∀ piece ∈ st.inside, piece.typeName? = none)
    (hassign : ∀ program ∈ programs, ∀ st ∈ program, ∀ x ∈ st.assigned?, x ∉ typeNames programs) :
    (∀ before, before <+: programs → (runAll config before .initial).2.TablesAgree) ∧
    ∀ before program done rest t, before ++ [program] <+: programs → program = done ++ rest →
      execute config done (runAll config before .initial).2 = .ok () t →
      t.TablesAgree ∧
      ∀ st after i u, rest = st :: after → st.typeName?.isSome = true →
        execute config [st] t = .error i u → u.types = t.types ∧ u.globals = t.globals := by
  have hsuits : ∀ program ∈ programs, ∀ st ∈ program, st.SuitsTopLevel (typeNames programs) := by
    intro program hprogram st hst
    refine ⟨hinside program hprogram st hst, fun x hx => ?_, hassign program hprogram st hst⟩
    exact List.mem_flatMap.mpr ⟨program, hprogram, List.mem_filterMap.mpr ⟨st, hst, hx⟩⟩
  have hruns : ∀ before, before <+: programs →
      (runAll config before .initial).2.AtBoundary (typeNames programs) :=
    fun before hbefore => atBoundary_runAll hstrict fun p hp => hsuits p (hbefore.subset hp)
  refine ⟨fun before hbefore => (hruns before hbefore).agree, ?_⟩
  rintro before _ done rest t hbefore rfl hdone
  have hstart := hruns before ((List.prefix_append _ _).trans hbefore)
  have hprogram := hsuits (done ++ rest) (hbefore.subset (by simp))
  have ht : (finalState (execute config done (runAll config before .initial).2)).AtBoundary
      (typeNames programs) :=
    hstart.execAll hstrict (fun st hst => hprogram st (List.mem_append_left _ hst)) rfl
  rw [hdone] at ht
  refine ⟨ht.agree, fun st after i u _ htype hfails => ?_⟩
  obtain ⟨name, hname⟩ := Option.isSome_iff_exists.mp htype
  have hexec : st.exec (t.env config) t = .error i u := by
    rw [execute, Statement.execAll, bind_apply] at hfails
    show st.exec (config.env (t.room config)) t = _
    cases h : st.exec (config.env (t.room config)) t with
    | ok _ w =>
        rw [h] at hfails
        cases hfails
    | error i' w =>
        rw [h] at hfails
        exact hfails
  have hpolicy : (t.env config).policy = .strict := hstrict
  obtain ⟨n, entry, e, hrule⟩ := Statement.exec_typeDef hpolicy hname t
  rw [hexec] at hrule
  split at hrule
  · cases hrule
    exact ⟨rfl, rfl⟩
  · cases hrule

/-- A class and a group are defined. Then a function cannot take the name of the class, and in the middle
of a third program neither can a second class: the type name and the base frame still stand for the
first. -/
theorem tables_agree_after_refused_definitions :
    let null : Expr := .literal .null default
    let config : Config := { redefinition := .strict }
    let point : Statement := .classDef ⟨"Point", [], default⟩
    let first : Program := [point, .groupDef ⟨"Shape", [⟨"Circle", [], default⟩], default⟩]
    let second : Program := [.function "Point" [(null, .mk [.assign "Shape" null default] none)] default]
    let done : Program := [.const "q" null default]
    let s := (runAll config [first, second] .initial).2
    (s.types.find? "Point").isSome = true ∧ s.TablesAgree ∧
      ∃ t i u, execute config done s = .ok () t ∧ t.TablesAgree ∧
        execute config [point] t = .error i u ∧ u.types = t.types ∧ u.globals = t.globals := by
  intro null config point first second done s
  obtain ⟨hafter, hbetween⟩ :=
    name_tables_agree config rfl [first, second, done ++ [point]] (by decide) (by decide)
  have hdone : interrupt? (execute config done s) = none := by decide +kernel
  have hpoint : (interrupt? (execute config [point] (finalState (execute config done s)))).isSome := by
    decide +kernel
  cases ht : execute config done s with
  | error i t =>
      rw [ht] at hdone
      cases hdone
  | ok r t =>
      rw [ht] at hpoint
      have h := hbetween [first, second] (done ++ [point]) done [point] t ⟨[], rfl⟩ rfl ht
      cases hu : execute config [point] t with
      | ok r u =>
          rw [finalState, hu] at hpoint
          cases hpoint
      | error i u =>
          exact ⟨by decide +kernel, hafter [first, second] ⟨[done ++ [point]], rfl⟩, t, i, u, rfl, h.1, hu,
            h.2 point [] i u rfl rfl hu⟩

end RecordLang
