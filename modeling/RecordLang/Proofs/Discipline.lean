import RecordLang.Proofs.Likeness.Evaluation
import RecordLang.Proofs.Regime.Evaluation

/-!
Disciplines: invariants of the store, as long as pushes respect them.

A discipline says which values and which text may come up, what holds of the lists and records and of
the type registry, and what may be pushed to a list. Values are judged in the store of the moment, so a
discipline can ask that what a value refers to exists. If it is lawful, and if every call of `push` that
succeeds respects it, then so does all of evaluation: the states that it leads to, the values that it
gives, and every job that comes up on the way.

* `Discipline`, `Discipline.Lawful`: a discipline, and what makes it lawful.
* `State.Follows`, `Job.Follows`: a state and a job that follow a discipline.
* `Discipline.likeness`, `Discipline.Lawful.likeness`: a discipline as a likeness of states to
  themselves.
* `Discipline.Lawful.kept`: what evaluation of a job that follows a discipline leads to.
* `Job.Invokes.follows`: what such a job invokes follows the discipline.
* `Discipline.Lawful.follows_runAll`, `Discipline.Lawful.follows_comesUp`: runs on a fresh interpreter.
-/

namespace RecordLang

/-! ### Disciplines -/

/-- Which values, which text and which pushes may come up, and what holds of the store and the types. Of
the store only lists and records count. -/
structure Discipline where
  value : Store → Value → Prop
  text : Task → Prop
  push : Store → ListRef → Value → Prop
  store : Store → Prop
  types : Registry → Prop

/-- What follows from what is allowed is allowed, and steps keep what holds of the store and the types. -/
structure Discipline.Lawful (D : Discipline) : Prop where
  part {task part : Task} : D.text task → task.Part part → D.text part
  inner {task : Task} {body : Block} : D.text task → task.Inner body → D.text (.block body)
  body {st : Store} {v : Value} {body : Block} : D.value st v → body ∈ v.bodies →
    D.text (.block body)
  atom {st : Store} {v : Value} : v.isAtom = true → D.value st v
  type (st : Store) (entry : TypeEntry) : D.value st entry.toValue
  object {st : Store} {c : Class} {r : RecordRef} :
    D.value st (.object c r) ↔ D.value st (.record r)
  closure {st : Store} {task : Task} {v : Value} {scope : Scope} : D.text task →
    v.scope? = some scope → (∀ body ∈ v.bodies, task.Body body) → D.value st v
  value_congr {st st' : Store} {v : Value} : st.SameContainers st' → D.value st v → D.value st' v
  store_congr {st st' : Store} : st.SameContainers st' → D.store st → D.store st'
  register {types : Registry} {st : Statement} {name : String} (entry : TypeEntry) :
    D.text (.statement st) → st.typeName? = some name → D.types types →
    D.types (types.insert name entry)
  list {st : Store} {items : Array Value} : D.store st → (∀ v ∈ items, D.value st v) →
    D.store (st.newList items).2 ∧ (∀ v, D.value st v → D.value (st.newList items).2 v) ∧
    D.value (st.newList items).2 (.list (st.newList items).1)
  record {st : Store} {fields : Table Value} : D.store st →
    (∀ x v, fields.find? x = some v → D.value st v) →
    D.store (st.newRecord fields).2 ∧ (∀ v, D.value st v → D.value (st.newRecord fields).2 v) ∧
    D.value (st.newRecord fields).2 (.record (st.newRecord fields).1)
  append {st : Store} {r : ListRef} {item : Value} : D.store st → D.value st (.list r) →
    D.value st item → D.push st r item →
    D.store (st.append r item) ∧ ∀ v, D.value st v → D.value (st.append r item) v

/-- All values that are stored are allowed, and what the discipline asks of the store and the types
holds. -/
structure State.Follows (D : Discipline) (s : State) : Prop where
  held : ∀ v, s.store.Holds v → D.value s.store v
  store : D.store s.store
  types : D.types s.types

/-- A discipline as a likeness: each state that follows it is like itself, and like no other. -/
def Discipline.likeness (D : Discipline) : Likeness where
  like s s' := s' = s ∧ s.Follows D
  value := D.value
  text := D.text
  push := D.push

section

variable {D : Discipline} {s : State}

/-- Only the store and the types count. -/
lemma State.Follows.of_eq {t : State} (hs : s.Follows D) (hstore : t.store = s.store)
    (htypes : t.types = s.types) : t.Follows D := by
  refine ⟨?_, ?_, ?_⟩
  · rw [hstore]
    exact hs.held
  · rw [hstore]
    exact hs.store
  · rw [htypes]
    exact hs.types

/-- A step that stores only allowed values anew and leaves lists and records alone. -/
lemma Discipline.Lawful.follows_step (hD : D.Lawful) {t : State} (hs : s.Follows D)
    (hcontainers : s.store.SameContainers t.store) (htypes : t.types = s.types)
    (hnew : ∀ v, t.store.Holds v → s.store.Holds v ∨ D.value s.store v) : t.Follows D := by
  refine ⟨fun v hv => ?_, hD.store_congr hcontainers hs.store, ?_⟩
  · exact hD.value_congr hcontainers ((hnew v hv).elim (hs.held v) id)
  · rw [htypes]
    exact hs.types

lemma Discipline.Lawful.follows_enterFrame (hD : D.Lawful) (hs : s.Follows D) {bindings : Frame}
    (hbindings : ∀ x v, bindings.find? x = some v → D.value s.store v) :
    (s.enterFrame bindings).Follows D := by
  refine hD.follows_step hs ⟨rfl, rfl⟩ rfl fun v hv => ?_
  exact (Store.holds_newFrame hv).imp_right fun ⟨x, hx⟩ => hbindings x v hx

lemma Discipline.Lawful.follows_bindTop (hD : D.Lawful) (hs : s.Follows D) (name : String) {v : Value}
    (hv : D.value s.store v) : (s.bindTop name v).Follows D := by
  refine hD.follows_step hs ⟨rfl, rfl⟩ rfl fun w hw => ?_
  obtain hold | rfl := Store.holds_bind hw
  · exact Or.inl hold
  · exact Or.inr hv

lemma Discipline.Lawful.follows_nextId (hD : D.Lawful) (hs : s.Follows D) (n : Nat) :
    State.Follows D { s with store := { s.store with nextId := n } } :=
  hD.follows_step hs ⟨rfl, rfl⟩ rfl fun _ hv => Or.inl (Store.holds_nextId hv)

/-- A lawful discipline is a lawful likeness. -/
theorem Discipline.Lawful.likeness (hD : D.Lawful) : D.likeness.Lawful where
  twin := by
    rintro s _ ⟨rfl, -⟩
    exact .refl _
  names := by
    rintro s _ task x ⟨rfl, -⟩ _ _
    exact ⟨rfl, rfl⟩
  part := hD.part
  inner := hD.inner
  body := hD.body
  atom := hD.atom
  type := hD.type
  object := hD.object
  closure _ htext hscope hbodies := hD.closure htext hscope hbodies
  value_congr := hD.value_congr
  found hst hv := hst.2.held _ (Store.holds_of_lookup hv)
  item hst _ hv := hst.2.held _ (.list _ hv)
  field hst _ hv := hst.2.held _ (.record _ _ hv)
  calls := by
    rintro s _ calls ⟨rfl, hs⟩
    exact ⟨rfl, hs.of_eq rfl rfl⟩
  console := by
    rintro s _ console ⟨rfl, hs⟩
    exact ⟨rfl, hs.of_eq rfl rfl⟩
  nextId := by
    rintro s _ n ⟨rfl, hs⟩
    exact ⟨rfl, hD.follows_nextId hs n⟩
  capture := by
    rintro s _ v scope ⟨rfl, hs⟩ _ _
    exact ⟨rfl, hs.of_eq rfl rfl⟩
  restore := by
    rintro s _ t _ ⟨rfl, -⟩ ⟨rfl, ht⟩
    exact ⟨rfl, ht.of_eq rfl rfl⟩
  frame := by
    rintro s _ bindings ⟨rfl, hs⟩ hbindings
    exact ⟨rfl, hD.follows_enterFrame hs hbindings⟩
  bind := by
    rintro s _ task x v ⟨rfl, hs⟩ _ _ hv
    exact ⟨rfl, hD.follows_bindTop hs x hv⟩
  register := by
    rintro s _ st name entry ⟨rfl, hs⟩ htext hname
    exact ⟨rfl, hs.held, hs.store, hD.register entry htext hname hs.types⟩
  list := by
    rintro s _ items ⟨rfl, hs⟩ hitems
    obtain ⟨hstore, hvalue, hnew⟩ := hD.list hs.store hitems
    refine ⟨⟨rfl, fun v hv => hvalue v ?_, hstore, hs.types⟩, hvalue, hnew⟩
    exact (Store.holds_newList hv).elim (hs.held v) (hitems v)
  record := by
    rintro s _ fields ⟨rfl, hs⟩ hfields
    obtain ⟨hstore, hvalue, hnew⟩ := hD.record hs.store hfields
    refine ⟨⟨rfl, fun v hv => hvalue v ?_, hstore, hs.types⟩, hvalue, hnew⟩
    exact (Store.holds_newRecord hv).elim (hs.held v) fun ⟨x, hx⟩ => hfields x v hx
  append := by
    rintro s _ r item ⟨rfl, hs⟩ hlist hitem hpush
    obtain ⟨hstore, hvalue⟩ := hD.append hs.store hlist hitem hpush
    refine ⟨⟨rfl, fun v hv => hvalue v ?_, hstore, hs.types⟩, hvalue⟩
    obtain hold | rfl := Store.holds_append hv
    · exact hs.held v hold
    · exact hitem

end

/-! ### Jobs -/

/-- The job starts in a state that follows the discipline, its task is allowed there, and what is pushed
on the way is allowed. -/
structure Job.Follows (config : Config) (D : Discipline) (p : Job) : Prop where
  state : p.state.Follows D
  task : D.likeness.Allows p.state.store p.task
  push : ∀ q l v, p.LeadsTo config q → q.Pushes config l v → D.push q.state.store l v

/-- What evaluation from a state `s` leads to: a state that follows the discipline, in which values that
were allowed still are. -/
structure Discipline.Leads (D : Discipline) (s t : State) : Prop where
  follows : t.Follows D
  value : ∀ v, D.value s.store v → D.value t.store v

section

variable {D : Discipline} {config : Config}

lemma Discipline.Leads.refl {s : State} (hs : s.Follows D) : D.Leads s s :=
  ⟨hs, fun _ hv => hv⟩

lemma Discipline.Leads.trans {s t u : State} (h : D.Leads s t) (h' : D.Leads t u) : D.Leads s u :=
  ⟨h'.follows, fun v hv => h'.value v (h.value v hv)⟩

/-- What holds of all that a job leads to holds of all that an invoked job leads to. -/
lemma Job.Follows.of_invokes {p q : Job} (hp : p.Follows config D) (h : p.Invokes config q)
    (hstate : q.state.Follows D) (htask : D.likeness.Allows q.state.store q.task) :
    q.Follows config D :=
  ⟨hstate, htask, fun r l v hleads => hp.push r l v (.head h hleads)⟩

/-- **Evaluation keeps to lawful disciplines.** The state in which a job ends follows the discipline,
however it ends, and the value that it gives or returns is allowed there. -/
theorem Discipline.Lawful.kept (hD : D.Lawful) {p : Job} (hp : p.Follows config D) :
    D.Leads p.state (finalState (p.outcome config)) ∧
      (∀ v t, p.outcome config = .ok v t → D.value t.store v) ∧
      ∀ v t, p.outcome config = .error (.returned v) t → D.value t.store v := by
  have hagree := hD.likeness.agree_self (fun _ _ h => h.1) config p ⟨rfl, hp.state⟩ hp.task hp.push
  generalize p.outcome config = r at hagree ⊢
  cases hagree with
  | ok hafter hv =>
      refine ⟨⟨hafter.like.2, hafter.value⟩, ?_, ?_⟩
      · rintro w u ⟨⟩
        exact hv
      · rintro w u ⟨⟩
  | error hafter hreturned =>
      refine ⟨⟨hafter.like.2, hafter.value⟩, ?_, ?_⟩
      · rintro w u ⟨⟩
      · rintro w u ⟨⟩
        exact hreturned w rfl

/-! ### Jobs on the way -/

/-- Operands that were evaluated one after the other. -/
lemma Job.Follows.operands (hD : D.Lawful) {e : Expr} {s t : State}
    (hp : Job.Follows config D ⟨.expr e, s⟩) {done rest : List Expr} {vs : List Value}
    (hsplit : e.operands = done ++ rest) (h : Expr.evalAll (s.env config) done s = .ok vs t) :
    D.Leads s t ∧ ∀ v ∈ vs, D.value t.store v := by
  induction done using List.reverseRecOn generalizing rest vs t with
  | nil =>
      cases h
      exact ⟨.refl hp.state, by simp⟩
  | append_singleton done operand ih =>
      rw [Expr.evalAll_append, bind_apply] at h
      cases hdone : Expr.evalAll (s.env config) done s with
      | error i u =>
          rw [hdone] at h
          cases h
      | ok ws u =>
          have hsplit' : e.operands = done ++ operand :: rest := by
            rw [hsplit, List.append_assoc, List.singleton_append]
          obtain ⟨hu, hws⟩ := ih hsplit' hdone
          have hcalls := Expr.calls_of_evalAll hdone
          have hmem : operand ∈ e.operands := by
            rw [hsplit']
            simp
          have hoperand : Job.Follows config D ⟨.expr operand, u⟩ :=
            hp.of_invokes (.operand hsplit' hdone) hu.follows (hD.part hp.task (.operand hmem))
          have hjob : Job.outcome config ⟨.expr operand, u⟩ = operand.eval (s.env config) u := by
            rw [← State.env_eq hcalls]
            rfl
          obtain ⟨hleads, hvalue, -⟩ := hD.kept hoperand
          rw [hjob] at hleads hvalue
          rw [hdone] at h
          simp only [Expr.evalAll, bind_apply] at h
          cases hv : operand.eval (s.env config) u with
          | error i t' =>
              rw [hv] at h
              cases h
          | ok v t' =>
              rw [hv] at h hleads
              cases h
              refine ⟨hu.trans hleads, fun w hw => ?_⟩
              obtain hold | hnew := List.mem_append.mp hw
              · exact hleads.value w (hws w hold)
              · obtain rfl := List.mem_singleton.mp hnew
                exact hvalue w t hv

/-- Statements that ran one after the other. -/
lemma Job.Follows.statements (hD : D.Lawful) {sts : List Statement} {s t : State}
    (hp : Job.Follows config D ⟨.statements sts, s⟩) {done rest : List Statement}
    (hsplit : sts = done ++ rest) (h : Statement.execAll (s.env config) done s = .ok () t) :
    D.Leads s t := by
  induction done using List.reverseRecOn generalizing rest t with
  | nil =>
      cases h
      exact .refl hp.state
  | append_singleton done st ih =>
      rw [Statement.execAll_append, bind_apply] at h
      cases hdone : Statement.execAll (s.env config) done s with
      | error i u =>
          rw [hdone] at h
          cases h
      | ok _ u =>
          have hsplit' : sts = done ++ st :: rest := by
            rw [hsplit, List.append_assoc, List.singleton_append]
          have hu := ih hsplit' hdone
          have hcalls := Statement.calls_of_execAll hdone
          have hmem : st ∈ sts := by
            rw [hsplit']
            simp
          have hstatement : Job.Follows config D ⟨.statement st, u⟩ :=
            hp.of_invokes (.statement hsplit' hdone) hu.follows (hD.part hp.task (.statement hmem))
          have hjob : Job.outcome config ⟨.statement st, u⟩
              = (st.exec (s.env config) >>= fun _ => pure Value.nil : Eval Value) u := by
            rw [← State.env_eq hcalls]
            rfl
          obtain ⟨hleads, -⟩ := hD.kept hstatement
          rw [hjob, bind_apply] at hleads
          rw [hdone] at h
          simp only [Statement.execAll, bind_apply] at h
          cases hst : st.exec (s.env config) u with
          | error i t' =>
              rw [hst] at h
              cases h
          | ok _ t' =>
              rw [hst] at h hleads
              cases h
              exact hu.trans hleads

/-- What the chosen arm binds is allowed. -/
lemma Discipline.Lawful.follows_enterArm (hD : D.Lawful) {s : State} (hs : s.Follows D) {v : Value}
    (hv : D.value s.store v) {arms : List Arm} {body : Block} {bindings : Bindings}
    (h : Pattern.first? s.types s.store v arms = .ok (some (body, bindings))) :
    (s.enterFrame (.ofList bindings)).Follows D := by
  obtain ⟨pattern, -, hmatch⟩ := Pattern.exists_of_first? h
  exact hD.follows_enterFrame hs (hD.likeness.value_of_match? ⟨rfl, hs⟩ hv hmatch)

/-- **What a job invokes follows the discipline** if the job does: what was evaluated before it has led
to a state that follows the discipline, with values that are allowed there. -/
theorem Job.Invokes.follows (hD : D.Lawful) {p q : Job} (h : p.Invokes config q)
    (hp : p.Follows config D) : q.Follows config D := by
  have hq : q.state.Follows D ∧ D.likeness.Allows q.state.store q.task := by
    cases h with
    | @operand e operand before after s t vs hsplit hbefore =>
        obtain ⟨ht, -⟩ := hp.operands hD hsplit hbefore
        have hmem : operand ∈ e.operands := by
          rw [hsplit]
          simp
        exact ⟨ht.follows, hD.part hp.task (.operand hmem)⟩
    | call hargs =>
        obtain ⟨ht, hvs⟩ := hp.operands hD (List.append_nil _).symm hargs
        exact ⟨ht.follows, hvs _ (by simp), hvs _ (by simp)⟩
    | @callNamed callee arguments span s t u f v vs hargs hrecord =>
        obtain ⟨ht, hvs⟩ := hp.operands hD (List.append_nil _).symm hargs
        have hfields : ∀ field ∈ (arguments.map Prod.fst).zip vs, D.value t.store field.2 :=
          fun field hfield => hvs _ (List.mem_cons_of_mem f (List.of_mem_zip hfield).2)
        have hmade := hD.likeness.agree_newRecord ⟨rfl, ht.follows⟩ hfields
        rw [hrecord] at hmade
        cases hmade with
        | ok hafter hv => exact ⟨hafter.like.2, hafter.value f (hvs f List.mem_cons_self), hv⟩
    | arm hsubject hfirst =>
        obtain ⟨ht, hvs⟩ := hp.operands hD (List.append_nil _).symm hsubject
        obtain ⟨pattern, hmem, -⟩ := Pattern.exists_of_first? hfirst
        exact ⟨hD.follows_enterArm ht.follows (hvs _ (by simp)) hfirst, hD.inner hp.task (.arm hmem)⟩
    | statementOperand hoperand => exact ⟨hp.state, hD.part hp.task (.statementOperand hoperand)⟩
    | @branch condition yes body no span s t b hcondition hbody =>
        have hpart : Job.Follows config D ⟨.expr condition, s⟩ :=
          hp.of_invokes (.statementOperand rfl) hp.state (hD.part hp.task (.statementOperand rfl))
        have houtcome : Job.outcome config ⟨.expr condition, s⟩ = .ok (.boolean b) t := hcondition
        obtain ⟨ht, -⟩ := hD.kept hpart
        rw [houtcome] at ht
        refine ⟨hD.follows_enterFrame ht.follows fun x v hv => absurd hv (by simp), ?_⟩
        exact hD.inner hp.task (.branch (Block.eq_of_branch hbody))
    | @statement sts before after st s t hsplit hbefore =>
        have hmem : st ∈ sts := by
          rw [hsplit]
          simp
        exact ⟨(hp.statements hD hsplit hbefore).follows, hD.part hp.task (.statement hmem)⟩
    | body => exact ⟨hp.state, hD.part hp.task .body⟩
    | @tail sts e s t hsts =>
        have hbody : Job.Follows config D ⟨.statements sts, s⟩ :=
          hp.of_invokes .body hp.state (hD.part hp.task .body)
        have ht := hbody.statements hD (List.append_nil _).symm hsts
        exact ⟨ht.follows, hD.part hp.task .tail⟩
    | @function f argument span s body bindings hroom hfirst =>
        obtain ⟨pattern, hmem, -⟩ := Pattern.exists_of_first? hfirst
        obtain ⟨htarget, hargument⟩ := hp.task
        have hinner : State.Follows D { s.calling ⟨f.name, some span⟩ with scope := f.scope } :=
          hp.state.of_eq rfl rfl
        refine ⟨hD.follows_enterArm hinner hargument hfirst, ?_⟩
        exact hD.body htarget (List.mem_map_of_mem hmem)
    | @lambda f argument span s params hroom hparams =>
        obtain ⟨htarget, hargument⟩ := hp.task
        have hcalling : (s.calling ⟨Lambda.callee, some span⟩).Follows D := hp.state.of_eq rfl rfl
        have hbound := hD.likeness.agree_bindParams ⟨rfl, hcalling⟩ f hargument span
        rw [hparams] at hbound
        cases hbound with
        | ok _ hvalues =>
            have hinner : State.Follows D { s.calling ⟨Lambda.callee, some span⟩ with scope := f.scope } :=
              hcalling.of_eq rfl rfl
            refine ⟨hD.follows_enterFrame hinner hvalues, ?_⟩
            exact hD.body htarget (List.mem_singleton_self _)
  exact hp.of_invokes h hq.1 hq.2

/-- All that a job leads to follows the discipline if the job does. -/
lemma Job.LeadsTo.follows (hD : D.Lawful) {p q : Job} (h : p.LeadsTo config q)
    (hp : p.Follows config D) : q.Follows config D := by
  induction h with
  | refl => exact hp
  | tail _ hinvokes ih => exact hinvokes.follows hD ih

end

/-! ### Runs -/

section

variable {D : Discipline} {config : Config}

/-- A program that follows the discipline leaves a state that does, also when it fails. -/
lemma Discipline.Lawful.follows_run (hD : D.Lawful) {program : Program} {s : State}
    (hp : Job.Follows config D ⟨.statements program, s⟩) : (run config program s).2.Follows D := by
  obtain ⟨hleads, -⟩ := hD.kept hp
  rw [run_eq_ofOutcome]
  rcases h : Job.outcome config ⟨.statements program, s⟩ with ⟨v, t⟩ | ⟨v | e, t⟩ <;> rw [h] at hleads
  · exact hleads.follows
  · exact hleads.follows
  · exact hleads.follows.of_eq rfl rfl

/-- The last of the programs starts where those before it led. -/
lemma runAll_append_singleton (config : Config) (programs : List Program) (program : Program)
    (s : State) :
    (runAll config (programs ++ [program]) s).2 =
      (run config program (runAll config programs s).2).2 := by
  induction programs generalizing s with
  | nil => rfl
  | cons first rest ih => exact ih (run config first s).2

/-- Every push that succeeds in runs of the programs on a fresh interpreter is allowed. -/
def Discipline.AllowsPushes (D : Discipline) (config : Config) (programs : List Program) : Prop :=
  ∀ before program, before ++ [program] <+: programs →
    ∀ (q : Job) l v, q.ComesUp config before program → q.Pushes config l v → D.push q.state.store l v

/-- At the start only native functions are stored, and no types are registered. -/
lemma Discipline.Lawful.follows_initial (hD : D.Lawful) (hstore : D.store State.initial.store)
    (htypes : D.types .empty) : State.initial.Follows D := by
  refine ⟨fun v hv => ?_, hstore, htypes⟩
  obtain hheld | ⟨x, hx⟩ := Store.holds_newFrame hv
  · exact absurd hheld Store.not_holds_empty
  · obtain ⟨f, -, hf⟩ := List.mem_map.mp (Table.mem_of_find?_ofList hx)
    cases hf
    exact hD.atom rfl

/-- Runs on a fresh interpreter lead to states that follow the discipline. -/
theorem Discipline.Lawful.follows_runAll (hD : D.Lawful) (hinitial : State.initial.Follows D)
    {programs : List Program} (htext : ∀ program ∈ programs, D.text (.statements program))
    (hpush : D.AllowsPushes config programs) : (runAll config programs .initial).2.Follows D := by
  induction programs using List.reverseRecOn with
  | nil => exact hinitial
  | append_singleton programs program ih =>
      have hbefore : (runAll config programs .initial).2.Follows D := by
        refine ih (fun p hp => htext p (List.mem_append_left _ hp)) fun before p hbefore => ?_
        exact hpush before p (hbefore.trans (List.prefix_append _ _))
      have hjob : Job.Follows config D ⟨.statements program, (runAll config programs .initial).2⟩ :=
        ⟨hbefore, htext program (by simp), hpush programs program List.prefix_rfl⟩
      rw [runAll_append_singleton]
      exact hD.follows_run hjob

/-- So does every job that comes up in these runs. -/
theorem Discipline.Lawful.follows_comesUp (hD : D.Lawful) (hinitial : State.initial.Follows D)
    {programs before : List Program} {program : Program}
    (htext : ∀ program ∈ programs, D.text (.statements program))
    (hpush : D.AllowsPushes config programs) (hbefore : before ++ [program] <+: programs) {q : Job}
    (hq : q.ComesUp config before program) : q.Follows config D := by
  have hmem : ∀ p ∈ before ++ [program], p ∈ programs := fun p hp => hbefore.subset hp
  have hstate : (runAll config before .initial).2.Follows D := by
    refine hD.follows_runAll hinitial (fun p hp => htext p (hmem p (List.mem_append_left _ hp)))
      fun before' p hbefore' => ?_
    exact hpush before' p ((hbefore'.trans (List.prefix_append _ _)).trans hbefore)
  refine Job.LeadsTo.follows hD hq ⟨hstate, htext program (hmem program (by simp)), ?_⟩
  exact hpush before program hbefore

end

end RecordLang
