import RecordLang.Proofs.Discipline

/-!
Lists and records only grow, and only at the end.

Lists are shared between frames, closures, records and other lists, and evaluation runs arbitrary code
between two looks at one of them. All that can have happened to a list meanwhile is that items were
added behind those it had, and only by calls of `push` that succeeded; to a record nothing can have
happened at all.

* `Store.GrowsTo`: old lists are prefixes of the new ones, and records are the same.
* `Store.KeepsLists`: no list is lost or changed.
* `Effect.growsTo`: every effect makes the store grow at most.
* `Job.keepsLists`: evaluation in which no push succeeds keeps all lists.
* `containers_grow_at_the_end`: the main statement, for all of evaluation and for programs.
-/

namespace RecordLang

/-! ### Growing stores -/

/-- The list exists. -/
def Store.HasList (st : Store) (r : ListRef) : Prop :=
  r.index < st.lists.size

instance (st : Store) (r : ListRef) : Decidable (st.HasList r) :=
  inferInstanceAs (Decidable (r.index < st.lists.size))

/-- No list is lost or changed. -/
def Store.KeepsLists (st st' : Store) : Prop :=
  ∀ r, st.HasList r → st'.HasList r ∧ st'.list r = st.list r

/-- Every list still has its old items, in front, and every record its fields, their order and their
values. -/
structure Store.GrowsTo (st st' : Store) : Prop where
  lists : ∀ r, st.HasList r → st'.HasList r ∧ (st.list r).toList <+: (st'.list r).toList
  records : st.KeepsRecords st'

namespace Store.KeepsLists

lemma refl (st : Store) : st.KeepsLists st :=
  fun _ h => ⟨h, rfl⟩

lemma trans {st st' st'' : Store} (h : st.KeepsLists st') (h' : st'.KeepsLists st'') :
    st.KeepsLists st'' := by
  intro r hr
  obtain ⟨hr', heq⟩ := h r hr
  obtain ⟨hr'', heq'⟩ := h' r hr'
  exact ⟨hr'', heq'.trans heq⟩

/-- Only the lists count. -/
lemma of_lists_eq {st st' : Store} (h : st'.lists = st.lists) : st.KeepsLists st' := by
  intro r hr
  rw [Store.HasList, Store.list, Store.list, h]
  exact ⟨hr, rfl⟩

/-- A new list comes behind those that exist. -/
lemma newList (st : Store) (items : Array Value) : st.KeepsLists (st.newList items).2 := by
  intro r hr
  have hlt : r.index < st.lists.size := hr
  refine ⟨?_, ?_⟩
  · show r.index < (st.lists.push items).size
    rw [Array.size_push]
    omega
  · show ((st.lists.push items)[r.index]?).getD #[] = (st.lists[r.index]?).getD #[]
    rw [Array.getElem?_push, if_neg (by omega)]

end Store.KeepsLists

namespace Store.GrowsTo

lemma refl (st : Store) : st.GrowsTo st :=
  ⟨fun _ hr => ⟨hr, List.prefix_rfl⟩, .refl st⟩

lemma trans {st st' st'' : Store} (h : st.GrowsTo st') (h' : st'.GrowsTo st'') : st.GrowsTo st'' := by
  refine ⟨fun r hr => ?_, h.records.trans h'.records⟩
  obtain ⟨hr', hbefore⟩ := h.lists r hr
  obtain ⟨hr'', hbefore'⟩ := h'.lists r hr'
  exact ⟨hr'', hbefore.trans hbefore'⟩

/-- Keeping everything is a way to grow. -/
lemma of_keeps {st st' : Store} (hlists : st.KeepsLists st') (hrecords : st.KeepsRecords st') :
    st.GrowsTo st' := by
  refine ⟨fun r hr => ?_, hrecords⟩
  obtain ⟨hr', heq⟩ := hlists r hr
  rw [heq]
  exact ⟨hr', List.prefix_rfl⟩

/-- An item that is added comes behind the others. -/
lemma append (st : Store) (r : ListRef) (item : Value) : st.GrowsTo (st.append r item) := by
  refine ⟨fun q hq => ⟨?_, ?_⟩, .of_records_eq rfl⟩
  · show q.index < (st.lists.modify r.index _).size
    rw [Array.size_modify]
    exact hq
  · by_cases hr : st.HasList r
    · rw [Store.list_append st r q item hr]
      split_ifs with heq
      · rw [heq, Array.toList_push]
        exact List.prefix_append _ _
      · exact List.prefix_rfl
    · -- there is no list to add the item to
      have hne : ¬ r.index = q.index := by
        intro heq
        rw [Store.HasList, heq] at hr
        exact hr hq
      simp only [Store.append, Store.list, Array.getElem?_modify, if_neg hne]
      exact List.prefix_rfl

end Store.GrowsTo

/-- **Evaluation makes the store grow at most.** -/
lemma Effect.growsTo {names : List String} {s t : State} {i : Option Interrupt}
    (h : Effect names s i t) : s.store.GrowsTo t.store := by
  induction h with
  | seq _ _ ih₁ ih₂ => exact ih₁.trans ih₂
  | list items => exact .of_keeps (.newList _ items) (.of_records_eq rfl)
  | record fields => exact .of_keeps (.of_lists_eq rfl) (.newRecord _ fields)
  | append r item => exact .append _ r item
  | @frame _ _ s _ _ bindings _ ih =>
      have hentered : s.store.GrowsTo (s.enterFrame bindings).store :=
        .of_keeps (.of_lists_eq rfl) (.of_records_eq rfl)
      exact hentered.trans ih
  | scope _ ih => exact ih
  | call _ ih => exact ih
  | callFailed _ ih => exact ih
  | settle _ ih => exact ih
  | _ => exact .of_keeps (.of_lists_eq rfl) (.of_records_eq rfl)

/-! ### Without pushes -/

/-- The lists of a store stay as they are, and nothing is pushed. -/
def listsOf (st₀ : Store) : Discipline where
  value _ _ := True
  text _ := True
  push _ _ _ := False
  store st := st₀.KeepsLists st
  types _ := True

lemma lawful_listsOf (st₀ : Store) : (listsOf st₀).Lawful where
  part _ _ := trivial
  inner _ _ := trivial
  body _ _ := trivial
  atom _ := trivial
  type _ _ := trivial
  object := Iff.rfl
  closure _ _ _ := trivial
  value_congr _ _ := trivial
  store_congr hcontainers hst := hst.trans (.of_lists_eq hcontainers.lists)
  register _ _ _ _ := trivial
  list hst _ := ⟨hst.trans (.newList _ _), fun _ _ => trivial, trivial⟩
  record hst _ := ⟨hst.trans (.of_lists_eq rfl), fun _ _ => trivial, trivial⟩
  append _ _ _ hpush := hpush.elim

/-- No call of `push` that comes up on the way to the outcome of the job succeeds. -/
def Job.PushesNothing (config : Config) (p : Job) : Prop :=
  ∀ argument span s, p.LeadsTo config ⟨.call (.native .push) argument span, s⟩ →
    ∀ v t, Job.outcome config ⟨.call (.native .push) argument span, s⟩ ≠ .ok v t

/-- Evaluation in which no push succeeds keeps all lists. -/
lemma Job.keepsLists {config : Config} {p : Job} (h : p.PushesNothing config) :
    p.state.store.KeepsLists (finalState (p.outcome config)).store := by
  have htask : (listsOf p.state.store).likeness.Allows p.state.store p.task := by
    cases p.task with
    | call target argument span => exact ⟨trivial, trivial⟩
    | _ => trivial
  have hp : p.Follows config (listsOf p.state.store) := by
    refine ⟨⟨fun _ _ => trivial, .refl _, trivial⟩, htask, ?_⟩
    rintro ⟨task, s⟩ l v hleads ⟨⟨r, span, rfl, -, -⟩, w, t, houtcome⟩
    exact h (.record r) span s hleads w t houtcome
  exact ((lawful_listsOf p.state.store).kept hp).1.follows.store

/-- A call of a native function leads to nothing but itself. -/
lemma Job.eq_of_leadsTo_native {config : Config} {f : Native} {argument : Value} {span : Span}
    {s : State} {q : Job} (h : Job.LeadsTo config ⟨.call (.native f) argument span, s⟩ q) :
    q = ⟨.call (.native f) argument span, s⟩ := by
  obtain rfl | ⟨r, hinvokes, -⟩ := Relation.ReflTransGen.cases_head h
  · rfl
  · cases hinvokes

/-- A run leaves the store that its statements left. -/
lemma store_run (config : Config) (program : Program) (s : State) :
    (run config program s).2.store =
      (finalState (Job.outcome config ⟨.statements program, s⟩)).store := by
  rw [run_eq_ofOutcome]
  rcases Job.outcome config ⟨.statements program, s⟩ with ⟨v, t⟩ | ⟨v | e, t⟩ <;> rfl

/-- **Lists and records only grow at the end.** From any state, however evaluation ends:

* an expression, a statement, statements, a block or a call, and likewise a program, leaves every list
  that existed with its old items in front, and every record with the same fields, order and values;
* if no call of `push` succeeded on the way, every list that existed is unchanged;
* a call of `push` that fails leaves the store as it was. -/
theorem containers_grow_at_the_end (config : Config) :
    (∀ p : Job,
      p.state.store.GrowsTo (finalState (p.outcome config)).store ∧
      (p.PushesNothing config → p.state.store.KeepsLists (finalState (p.outcome config)).store)) ∧
    (∀ (program : Program) (s : State),
      s.store.GrowsTo (run config program s).2.store ∧
      (Job.PushesNothing config ⟨.statements program, s⟩ →
        s.store.KeepsLists (run config program s).2.store)) ∧
    ∀ argument span s i t,
      Job.outcome config ⟨.call (.native .push) argument span, s⟩ = .error i t →
        t.store = s.store := by
  have hjob : ∀ p : Job, p.state.store.GrowsTo (finalState (p.outcome config)).store := by
    intro p
    obtain ⟨names, heffect⟩ := p.exists_effect config
    exact heffect.growsTo
  refine ⟨fun p => ⟨hjob p, Job.keepsLists⟩, fun program s => ?_, fun argument span s i t h => ?_⟩
  · rw [store_run]
    exact ⟨hjob ⟨.statements program, s⟩, Job.keepsLists⟩
  · obtain ⟨l, v, -, houtcome⟩ | ⟨e, u, houtcome, hstore⟩ := Job.push_cases config argument span s
    · rw [h] at houtcome
      cases houtcome
    · rw [h] at houtcome
      cases houtcome
      exact hstore

/-- A list of one item is made. Pushing `true` to it puts `true` behind that item; a `push` that is given
the list and no item fails, and the list stays as it is. -/
theorem list_grows_by_push :
    let xs : Expr := .identifier "xs" default
    let s := (run default [.const "xs" (.list [.literal .null default] default) default] .initial).2
    let program : Program :=
      [.expression (.callNamed (.identifier "push" default)
        [("list", xs), ("item", .literal (.boolean true) default)] default) default]
    let fields : Table Value := .ofList [("list", .list ⟨0⟩)]
    let t : State := { s with store := (s.store.newRecord fields).2 }
    let p : Job := ⟨.call (.native .push) (.record (s.store.newRecord fields).1) default, t⟩
    s.store.HasList ⟨0⟩ ∧ s.store.list ⟨0⟩ = #[.nil] ∧
      (run default program s).2.store.list ⟨0⟩ = #[.nil, .boolean true] ∧
      (s.store.list ⟨0⟩).toList <+: ((run default program s).2.store.list ⟨0⟩).toList ∧
      p.PushesNothing default ∧ (∃ e u, p.outcome default = .error e u ∧ u.store = t.store) ∧
      (finalState (p.outcome default)).store.list ⟨0⟩ = #[.nil] := by
  intro xs s program fields t p
  have hlist : s.store.HasList ⟨0⟩ := by decide
  obtain ⟨hjobs, hruns, hpush⟩ := containers_grow_at_the_end default
  obtain ⟨e, u, hfails⟩ : ∃ e u, p.outcome default = .error e u := ⟨_, _, rfl⟩
  have hnothing : p.PushesNothing default := by
    intro argument span q hleads v w
    rw [Job.eq_of_leadsTo_native hleads, hfails]
    rintro ⟨⟩
  refine ⟨hlist, rfl, rfl, ((hruns program s).1.lists ⟨0⟩ hlist).2, hnothing,
    ⟨e, u, hfails, hpush _ _ _ _ _ hfails⟩, ?_⟩
  exact ((hjobs p).2 hnothing ⟨0⟩ hlist).2

end RecordLang
