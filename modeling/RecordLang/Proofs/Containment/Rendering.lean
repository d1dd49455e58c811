import RecordLang.Proofs.Containment

/-!
Texts and comparisons of nested values.

Writing a value asks for the texts of what stands in it, and comparing two asks for comparisons of what
stands in them. Without a bound on the depth this comes to an end only if the containers below are not
nested in a cycle. Here the unbounded recursions are relations, with a derivation for every run that
ends. A value from which no cycle is reached has one, and its result is what the bounded functions give:
a chain of containers is never longer than the number of containers.

* `Value.Renders`, `Value.Compares`: writing and comparing end, with the given result.
* `Value.Renders.not_cyclic`: writing a container that stands inside of itself does not end.
* `Store.rank`: the number of containers that are reached from a value, which bounds the nesting.
* `Value.WellNested`: no cycle is reached from the value; so it is with all known values of a well-nested
  store.
* `Value.WellNested.renders_textWithin`, `Value.WellNested.compares_equalWithin`: writing and comparing
  end.
* `Moment`: the stores and values that come up in runs.
* `acyclic_without_self_reaching_push`: the main statement.
-/

namespace RecordLang

/-! ### Unbounded recursion -/

/-- Writing the value ends with the given text: so does writing all values that stand in it. -/
inductive Value.Renders (st : Store) : Value → String → Prop where
  | flat {v : Value} : v.container? = none → Renders st v (v.textWithin st 0)
  | list {r : ListRef} (text : Value → String) :
      (∀ w ∈ st.list r, Renders st w (text w)) →
      Renders st (.list r) (itemsText text (st.list r))
  | record {r : RecordRef} (text : Value → String) :
      (∀ x w, (st.record r).find? x = some w → Renders st w (text w)) →
      Renders st (.record r) (fieldsText text (st.record r))
  | object {c : Class} {r : RecordRef} (text : Value → String) :
      (∀ x w, (st.record r).find? x = some w → Renders st w (text w)) →
      Renders st (.object c r) (c.displayName ++ fieldsText text (st.record r))

/-- Whether the values are containers of one kind, which are compared by what stands in them. -/
def Value.sameKind : Value → Value → Bool
  | .list _, .list _ => true
  | .record _, .record _ => true
  | .object .., .object .. => true
  | _, _ => false

/-- Comparing the values ends with the given answer. If they are two containers of one kind, so do the
comparisons of their items place by place, or of their fields name by name. -/
inductive Value.Compares (st : Store) : Value → Value → Bool → Prop where
  | flat {v w : Value} : v.sameKind w = false → Compares st v w (v.equalWithin st 0 w)
  | list {a b : ListRef} (eq : Value → Value → Bool) :
      (a ≠ b → ∀ p ∈ (st.list a).toList.zip (st.list b).toList, Compares st p.1 p.2 (eq p.1 p.2)) →
      Compares st (.list a) (.list b) (a == b || equalItems eq (st.list a) (st.list b))
  | record {a b : RecordRef} (eq : Value → Value → Bool) :
      (a ≠ b → ∀ x v w, (st.record a).find? x = some v → (st.record b).find? x = some w →
        Compares st v w (eq v w)) →
      Compares st (.record a) (.record b) (a == b || equalFields eq (st.record a) (st.record b))
  | object {c d : Class} {a b : RecordRef} (eq : Value → Value → Bool) :
      (c.id = d.id → a ≠ b → ∀ x v w, (st.record a).find? x = some v →
        (st.record b).find? x = some w → Compares st v w (eq v w)) →
      Compares st (.object c a) (.object d b)
        (c.id == d.id && (a == b || equalFields eq (st.record a) (st.record b)))

/-- Writing a container that is reached from itself does not end. -/
lemma Value.Renders.not_cyclic {st : Store} {v : Value} {text : String} (h : v.Renders st text)
    {c : Container} (hc : v.container? = some c) : ¬ Relation.TransGen st.Contains c c := by
  -- a cycle through the value goes on through one that stands in it
  have hinside : ∀ {c : Container}, (∀ w, st.Stands w c → ∀ d, w.container? = some d →
      ¬ Relation.TransGen st.Contains d d) → ¬ Relation.TransGen st.Contains c c := by
    intro c hbelow hcycle
    obtain ⟨d, ⟨w, hw, hd⟩, hback⟩ := Relation.TransGen.head'_iff.mp hcycle
    exact hbelow w hw d hd (.tail' hback ⟨w, hw, hd⟩)
  induction h generalizing c with
  | flat hnone =>
      rw [hnone] at hc
      cases hc
  | list _ _ ih =>
      cases hc
      exact hinside fun w hw d hd => ih w hw hd
  | record _ _ ih | object _ _ ih =>
      cases hc
      exact hinside fun w ⟨x, hx⟩ d hd => ih x w hx hd

/-! ### The depth of nesting -/

namespace Store

/-- All containers of the store. -/
def existing (st : Store) : Finset Container :=
  (Finset.range st.lists.size).image (fun i => .list ⟨i⟩) ∪
    (Finset.range st.records.size).image fun i => .record ⟨i⟩

/-- The number of containers that are reached from a value. -/
noncomputable def rank (st : Store) (v : Value) : Nat :=
  {c | v.Reaches st c}.ncard

lemma mem_existing {st : Store} {c : Container} (h : st.Has c) : c ∈ st.existing := by
  cases c with
  | list r =>
      refine Finset.mem_union_left _ (Finset.mem_image.mpr ⟨r.index, ?_, rfl⟩)
      exact Finset.mem_range.mpr h
  | record r =>
      refine Finset.mem_union_right _ (Finset.mem_image.mpr ⟨r.index, ?_, rfl⟩)
      exact Finset.mem_range.mpr h

lemma card_existing_le (st : Store) : st.existing.card ≤ st.containers :=
  calc st.existing.card
      ≤ ((Finset.range st.lists.size).image fun i => Container.list ⟨i⟩).card +
          ((Finset.range st.records.size).image fun i => Container.record ⟨i⟩).card :=
        Finset.card_union_le _ _
    _ ≤ (Finset.range st.lists.size).card + (Finset.range st.records.size).card :=
        Nat.add_le_add Finset.card_image_le Finset.card_image_le
    _ = st.containers := by rw [Finset.card_range, Finset.card_range, containers]

end Store

/-- What is reached from the value exists, and no cycle is reached from it. -/
structure Value.WellNested (st : Store) (v : Value) : Prop where
  closed : ∀ c, v.Reaches st c → st.Has c
  acyclic : ∀ c, v.Reaches st c → ¬ Relation.TransGen st.Contains c c

section

variable {st : Store} {v w : Value} {c d : Container}

/-- What is reached from inside of a value is reached from the value. -/
lemma Value.Reaches.of_stands (h : w.Reaches st d) (hc : v.container? = some c)
    (hw : st.Stands w c) : v.Reaches st d := by
  obtain ⟨b, hb, hpath⟩ := h
  exact ⟨c, hc, .head ⟨w, hw, hb⟩ hpath⟩

/-- In a well-nested store all known values are well-nested. -/
lemma Store.WellNested.value (hst : st.WellNested) (hv : st.Knows v) : v.WellNested st := by
  refine ⟨fun c ⟨d, hd, hpath⟩ => ?_, fun c _ => hst.acyclic c⟩
  obtain rfl | ⟨b, -, w, hw, hc⟩ := Relation.ReflTransGen.cases_tail hpath
  · exact hv _ hd
  · exact hst.closed b w hw c hc

namespace Value.WellNested

lemma inside (hv : v.WellNested st) (hc : v.container? = some c) (hw : st.Stands w c) :
    w.WellNested st :=
  ⟨fun d hd => hv.closed d (hd.of_stands hc hw), fun d hd => hv.acyclic d (hd.of_stands hc hw)⟩

/-- A value is well-nested if all values that stand in it are. -/
lemma of_inside (hv : st.Knows v)
    (hinside : ∀ c w, v.container? = some c → st.Stands w c → w.WellNested st) : v.WellNested st := by
  refine ⟨?_, ?_⟩
  · rintro c ⟨d, hd, hpath⟩
    obtain rfl | ⟨b, ⟨w, hw, hb⟩, hpath⟩ := Relation.ReflTransGen.cases_head hpath
    · exact hv d hd
    · exact (hinside d w hd hw).closed c ⟨b, hb, hpath⟩
  · rintro c ⟨d, hd, hpath⟩ hcycle
    obtain rfl | ⟨b, ⟨w, hw, hb⟩, hpath⟩ := Relation.ReflTransGen.cases_head hpath
    · -- a cycle through the value itself is reached from what stands in it
      obtain ⟨b, ⟨w, hw, hb⟩, hback⟩ := Relation.TransGen.head'_iff.mp hcycle
      exact (hinside d w hd hw).acyclic d ⟨b, hb, hback⟩ hcycle
    · exact (hinside d w hd hw).acyclic c ⟨b, hb, hpath⟩ hcycle

lemma reaches_subset (hv : v.WellNested st) : {c | v.Reaches st c} ⊆ (st.existing : Set Container) :=
  fun c hc => Store.mem_existing (hv.closed c hc)

lemma rank_le (hv : v.WellNested st) : st.rank v ≤ st.containers :=
  calc st.rank v
      ≤ (st.existing : Set Container).ncard :=
        Set.ncard_le_ncard hv.reaches_subset (Finset.finite_toSet _)
    _ = st.existing.card := Set.ncard_coe_finset _
    _ ≤ st.containers := st.card_existing_le

/-- From what stands in a value less is reached: not the value itself. -/
lemma rank_lt (hv : v.WellNested st) (hc : v.container? = some c) (hw : st.Stands w c) :
    st.rank w < st.rank v := by
  refine Set.ncard_lt_ncard ⟨fun b hb => hb.of_stands hc hw, fun hsubset => ?_⟩
    ((Finset.finite_toSet _).subset hv.reaches_subset)
  obtain ⟨d, hd, hback⟩ := hsubset ⟨c, hc, .refl⟩
  exact hv.acyclic c ⟨c, hc, .refl⟩ (.head' ⟨w, hw, hd⟩ hback)

/-- From a container at least itself is reached. -/
lemma container?_of_rank (hv : v.WellNested st) (h : st.rank v ≤ 0) : v.container? = none := by
  by_contra hcontainer
  obtain ⟨c, hc⟩ := Option.ne_none_iff_exists'.mp hcontainer
  have hpos : 0 < st.rank v :=
    (Set.ncard_pos ((Finset.finite_toSet _).subset hv.reaches_subset)).mpr ⟨c, c, hc, .refl⟩
  omega

/-! ### Bounded recursion suffices -/

/-- **Writing ends**, by induction on the depth: what stands in a value is nested less deep. -/
lemma renders_textWithin (hv : v.WellNested st) {depth : Nat} (hrank : st.rank v ≤ depth) :
    v.Renders st (v.textWithin st depth) := by
  induction depth generalizing v with
  | zero => exact .flat (hv.container?_of_rank hrank)
  | succ depth ih =>
      have hinside : ∀ {c w}, v.container? = some c → st.Stands w c →
          w.Renders st (w.textWithin st depth) := by
        intro c w hc hw
        have hlt := hv.rank_lt hc hw
        exact ih (hv.inside hc hw) (by omega)
      cases v with
      | list r => exact .list _ fun w hw => hinside rfl hw
      | record r => exact .record _ fun x w hw => hinside rfl ⟨x, hw⟩
      | object c r => exact .object _ fun x w hw => hinside rfl ⟨x, hw⟩
      | _ => exact .flat rfl

/-- **Comparing ends.** The depth of the first value bounds the recursion. -/
lemma compares_equalWithin (hv : v.WellNested st) {depth : Nat} (hrank : st.rank v ≤ depth)
    (w : Value) : v.Compares st w (v.equalWithin st depth w) := by
  induction depth generalizing v w with
  | zero =>
      refine .flat ?_
      have hnone := hv.container?_of_rank hrank
      cases v <;> first | rfl | cases hnone
  | succ depth ih =>
      have hinside : ∀ {c a}, v.container? = some c → st.Stands a c → ∀ b,
          a.Compares st b (a.equalWithin st depth b) := by
        intro c a hc ha b
        have hlt := hv.rank_lt hc ha
        exact ih (hv.inside hc ha) (by omega) b
      cases v with
      | list r =>
          cases w with
          | list q =>
              refine .list (Value.equalWithin st depth) fun _ p hp => hinside rfl ?_ _
              exact Array.mem_toList_iff.mp (List.of_mem_zip hp).1
          | _ => exact .flat rfl
      | record r =>
          cases w with
          | record q =>
              exact .record (Value.equalWithin st depth) fun _ x a b ha _ => hinside rfl ⟨x, ha⟩ b
          | _ => exact .flat rfl
      | object c r =>
          cases w with
          | object d q =>
              exact .object (Value.equalWithin st depth) fun _ _ x a b ha _ => hinside rfl ⟨x, ha⟩ b
          | _ => exact .flat rfl
      | _ => cases w <;> exact .flat rfl

end Value.WellNested

namespace Store.WellNested

lemma rank_le (hst : st.WellNested) (hv : st.Knows v) : st.rank v ≤ st.containers :=
  (hst.value hv).rank_le

lemma renders_textWithin (hst : st.WellNested) {depth : Nat} (hv : st.Knows v)
    (hrank : st.rank v ≤ depth) : v.Renders st (v.textWithin st depth) :=
  (hst.value hv).renders_textWithin hrank

lemma compares_equalWithin (hst : st.WellNested) {depth : Nat} (hv : st.Knows v)
    (hrank : st.rank v ≤ depth) (w : Value) : v.Compares st w (v.equalWithin st depth w) :=
  (hst.value hv).compares_equalWithin hrank w

end Store.WellNested

end

/-! ### Runs -/

/-- The values that a task is about: what is called, and with what. -/
def Task.values : Task → List Value
  | .call target argument _ => [target, argument]
  | _ => []

/-- The value with which evaluation ends, if there is one. -/
def valuesOf : EStateM.Result Interrupt State Value → List Value
  | .ok v _ => [v]
  | .error (.returned v) _ => [v]
  | .error (.failed _) _ => []

/-- A moment in the runs of programs on a fresh interpreter: between two programs, or when a job that
comes up in one of them starts or ends. It has a store, and values that are handed over. -/
inductive Moment (config : Config) (programs : List Program) : Store → List Value → Prop where
  | between {before : List Program} : before <+: programs →
      Moment config programs (runAll config before .initial).2.store []
  | start {before : List Program} {program : Program} {q : Job} : before ++ [program] <+: programs →
      q.ComesUp config before program → Moment config programs q.state.store q.task.values
  | finish {before : List Program} {program : Program} {q : Job} : before ++ [program] <+: programs →
      q.ComesUp config before program →
      Moment config programs (finalState (q.outcome config)).store (valuesOf (q.outcome config))

/-- At the start there are no containers. -/
lemma wellNested_initial : State.initial.store.WellNested := by
  have hempty : ∀ c v, ¬ ({} : Store).Stands v c := by
    intro c v hv
    cases c with
    | list r => exact absurd hv (by simp [Store.Stands, Store.list])
    | record r => exact absurd hv (by simp [Store.Stands, Store.record])
  have hnested : ({} : Store).WellNested := by
    refine ⟨fun c v hv => absurd hv (hempty c v), fun c hcycle => ?_⟩
    obtain ⟨d, ⟨v, hv, -⟩, -⟩ := Relation.TransGen.head'_iff.mp hcycle
    exact hempty c v hv
  have hsame : ({} : Store).SameContainers State.initial.store := ⟨rfl, rfl⟩
  exact lawful_containment.store_congr hsame hnested

/-- In every moment of such runs the discipline is followed, and values that are handed over are
known. -/
lemma Moment.wellNested {config : Config} {programs : List Program} {st : Store} {hand : List Value}
    (h : Moment config programs st hand) (hpush : containment.AllowsPushes config programs) :
    st.WellNested ∧ ∀ v, st.Holds v ∨ v ∈ hand → st.Knows v := by
  have hD := lawful_containment
  have hinitial := hD.follows_initial wellNested_initial trivial
  cases h with
  | @between before hbefore =>
      have hfollows : (runAll config before .initial).2.Follows containment :=
        hD.follows_runAll hinitial (fun _ _ => trivial)
          fun before' p hbefore' => hpush before' p (hbefore'.trans hbefore)
      exact ⟨hfollows.store, fun v hv => hfollows.held v (hv.resolve_right List.not_mem_nil)⟩
  | @start before program q hbefore hq =>
      have hfollows := hD.follows_comesUp hinitial (fun _ _ => trivial) hpush hbefore hq
      refine ⟨hfollows.state.store, fun v hv => hv.elim (hfollows.state.held v) fun hmem => ?_⟩
      have htask := hfollows.task
      cases h : q.task with
      | call target argument span =>
          rw [h] at hmem htask
          obtain rfl | hmem := List.mem_cons.mp hmem
          · exact htask.1
          · obtain rfl := List.mem_singleton.mp hmem
            exact htask.2
      | _ =>
          rw [h] at hmem
          exact absurd hmem List.not_mem_nil
  | @finish before program q hbefore hq =>
      have hfollows := hD.follows_comesUp hinitial (fun _ _ => trivial) hpush hbefore hq
      obtain ⟨hleads, hvalue, hreturned⟩ := hD.kept hfollows
      refine ⟨hleads.follows.store, fun v hv => hv.elim (hleads.follows.held v) fun hmem => ?_⟩
      rcases h : q.outcome config with ⟨w, t⟩ | ⟨w | e, t⟩ <;> rw [h] at hmem
      · obtain rfl := List.mem_singleton.mp hmem
        exact hvalue v t h
      · obtain rfl := List.mem_singleton.mp hmem
        exact hreturned v t h
      · exact absurd hmem List.not_mem_nil

/-- The calls in a program that is one expression are those in the expression. -/
lemma Job.LeadsTo.of_expression {config : Config} {e : Expr} {span : Span} {s : State} {q : Job}
    (h : Job.LeadsTo config ⟨.statements [.expression e span], s⟩ q) (hq : q.task.isCall = true) :
    Job.LeadsTo config ⟨.expr e, s⟩ q := by
  obtain rfl | ⟨q₁, hstatement, h⟩ := Relation.ReflTransGen.cases_head h
  · cases hq
  cases hstatement with
  | @statement _ before after st _ t hsplit hbefore =>
      obtain ⟨rfl, hrest⟩ | ⟨rest, -, hrest⟩ := List.cons_eq_append_iff.mp hsplit
      · cases hrest
        cases hbefore
        obtain rfl | ⟨q₂, hoperand, h⟩ := Relation.ReflTransGen.cases_head h
        · cases hq
        cases hoperand with
        | statementOperand hoperand =>
            cases hoperand
            exact h
      · simp at hrest

/-- The only call in a call with named arguments whose operands have no parts is the call itself. -/
lemma Job.LeadsTo.of_callNamed {config : Config} {callee : Expr} {arguments : List (String × Expr)}
    {span : Span} {s : State} {q : Job}
    (h : Job.LeadsTo config ⟨.expr (.callNamed callee arguments span), s⟩ q)
    (hq : q.task.isCall = true) (hflat : ∀ e ∈ callee :: arguments.map Prod.snd, e.operands = []) :
    ∃ f v vs t u, Expr.evalAll (s.env config) (callee :: arguments.map Prod.snd) s = .ok (f :: vs) t ∧
      newRecord ((arguments.map Prod.fst).zip vs) t = .ok v u ∧
      Job.LeadsTo config ⟨.call f v span, u⟩ q := by
  obtain rfl | ⟨q₁, hinvokes, h⟩ := Relation.ReflTransGen.cases_head h
  · cases hq
  cases hinvokes with
  | callNamed hargs hrecord => exact ⟨_, _, _, _, _, hargs, hrecord, h⟩
  | @operand _ operand before after _ t _ hsplit _ =>
      have hmem : operand ∈ callee :: arguments.map Prod.snd := by
        rw [show callee :: arguments.map Prod.snd = before ++ operand :: after from hsplit]
        simp
      have hnone := hflat operand hmem
      obtain rfl | ⟨q₂, hinvokes, -⟩ := Relation.ReflTransGen.cases_head h
      · cases hq
      cases hinvokes with
      | operand hsplit _ =>
          rw [hnone] at hsplit
          simp at hsplit
      | _ => cases hnone

/-- **Only a push into itself closes a cycle.** Run programs on a fresh interpreter, and suppose that
whenever a call of `push` succeeds, the list was not reached from the item. Then in every moment of the
runs

* no list or record is reached from what stands in it;
* all values that are stored or handed over refer to what exists;
* and of all values that refer to what exists the writing ends, and so does the comparison with any
  other: with the results that texts and comparisons have in the program. -/
theorem acyclic_without_self_reaching_push (config : Config) (programs : List Program)
    (hpush : ∀ before program, before ++ [program] <+: programs → ∀ (q : Job) l v,
      q.ComesUp config before program → q.Pushes config l v → ¬ v.Reaches q.state.store (.list l))
    (st : Store) (hand : List Value) (hmoment : Moment config programs st hand) :
    st.Acyclic ∧ (∀ v, st.Holds v ∨ v ∈ hand → st.Knows v) ∧
      ∀ v, st.Knows v → v.Renders st (v.text st) ∧ ∀ w, v.Compares st w (v.equal st w) := by
  obtain ⟨hst, hknown⟩ := hmoment.wellNested hpush
  refine ⟨hst.acyclic, hknown, fun v hv => ⟨?_, fun w => ?_⟩⟩
  · exact hst.renders_textWithin hv (hst.rank_le hv)
  · exact hst.compares_equalWithin hv (hst.rank_le hv) w

/-- A new list is pushed to another one. The first then stands in the second, which is written and
compared to its end. -/
theorem nested_lists_after_push :
    let empty : Expr := .list [] default
    let program : Program :=
      [.expression (.callNamed (.identifier "push" default) [("list", empty), ("item", empty)] default)
        default]
    let st := (run default program .initial).2.store
    st.list ⟨0⟩ = #[.list ⟨1⟩] ∧ st.Acyclic ∧ (Value.list ⟨0⟩).Renders st "[[]]" ∧
      (Value.list ⟨0⟩).Compares st (.list ⟨1⟩) false := by
  intro empty program st
  have hpush : ∀ before p, before ++ [p] <+: [program] → ∀ (q : Job) l v,
      q.ComesUp default before p → q.Pushes default l v →
      ¬ v.Reaches q.state.store (.list l) := by
    intro before p hbefore q l v hq hpushes
    obtain ⟨rfl, rfl⟩ : before = [] ∧ p = program := by
      cases before with
      | nil => exact ⟨rfl, by simpa using hbefore⟩
      | cons first rest =>
          have hlength := hbefore.length_le
          simp at hlength
    obtain ⟨⟨r, span, htask, hlist, hitem⟩, -⟩ := hpushes
    have hcall : q.task.isCall = true := by
      rw [htask]
      rfl
    have hflat : ∀ e ∈ [Expr.identifier "push" default, empty, empty], e.operands = [] := by
      simp [Expr.operands, empty]
    obtain ⟨f, w, vs, t, u, hargs, hrecord, hq⟩ := (hq.of_expression hcall).of_callNamed hcall hflat
    cases hargs
    cases hrecord
    cases Job.eq_of_leadsTo_native hq
    cases htask
    cases hlist
    cases hitem
    rintro ⟨d, ⟨⟩, hpath⟩
    obtain heq | ⟨c, ⟨w, hw, -⟩, -⟩ := Relation.ReflTransGen.cases_head hpath
    · cases heq
    · exact absurd hw (Array.not_mem_empty w)
  obtain ⟨hacyclic, hknown, hvalues⟩ := acyclic_without_self_reaching_push default [program] hpush st []
    (.between List.prefix_rfl)
  have hknows : st.Knows (.list ⟨0⟩) := by
    rintro c ⟨⟩
    show st.HasList ⟨0⟩
    decide +kernel
  obtain ⟨hrenders, hcompares⟩ := hvalues _ hknows
  have htext : (Value.list ⟨0⟩).text st = "[[]]" := by decide +kernel
  have hequal : (Value.list ⟨0⟩).equal st (.list ⟨1⟩) = false := by decide +kernel
  rw [htext] at hrenders
  refine ⟨rfl, hacyclic, hrenders, ?_⟩
  rw [← hequal]
  exact hcompares _

end RecordLang
