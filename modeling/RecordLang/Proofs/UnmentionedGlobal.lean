import RecordLang.Proofs.Coupling.Region
import RecordLang.Proofs.Likeness.Evaluation

/-!
Globals that a program does not mention.

A program that neither reads, assigns nor defines a name does not notice what the base frame binds the
name to, or whether it does. Patterns and parameters may bind the name: they do so in frames of their
own, and nobody reads it there. The value may be anything, so a new interpreter is taken in a store that
exists already, where the value can refer to lists, records and frames; the program gets hold of none of
these. So more can be put into the prelude without harm to programs that do not ask for it.

* `State.freshIn`: a new interpreter in a store that exists.
* `State.Extends`: the states are the same but for one name in the base frame.
* `Region.Holds`, `State.Confined`: the program finds no function that mentions the name.
* `unmentioned`, `lawful_unmentioned`: the two as a lawful likeness.
* `unmentioned_global_is_harmless`: the main statement.
-/

namespace RecordLang

/-! ### Two interpreters -/

/-- A new interpreter whose base frame has the given bindings, in a store that exists already. -/
def State.freshIn (heap : Store) (globals : Frame) : State :=
  { store := (heap.newFrame globals).2, scope := ⟨[], (heap.newFrame globals).1⟩ }

/-- In an empty store this is the state that programs start in. -/
lemma State.freshIn_empty : State.freshIn {} Native.prelude = State.initial := rfl

/-- The second state is the first one with `z` bound to `w` in the frame `base`. -/
structure State.Extends (base : FrameRef) (z : String) (w : Value) (s s' : State) : Prop where
  scope : s'.scope = s.scope
  types : s'.types = s.types
  calls : s'.calls = s.calls
  console : s'.console = s.console
  store : s.store.AgreesOutside {base} s'.store
  bound : ∀ x, (s'.store.frame base).find? x = ((s.store.frame base).insert z w).find? x

namespace State.Extends

variable {base : FrameRef} {z : String} {w : Value} {s s' : State}

lemma twin (h : s.Extends base z w s') : s.Twin s' :=
  ⟨h.scope, h.types, h.calls, h.console, h.store.sameContainers, h.store.nextId, h.store.size_frames⟩

/-- All frames have the same binding for every other name. -/
lemma find?_eq (h : s.Extends base z w s') {x : String} (hx : x ≠ z) (r : FrameRef) :
    (s'.store.frame r).find? x = (s.store.frame r).find? x := by
  by_cases hr : r = base
  · rw [hr, h.bound, Table.find?_insert, if_neg hx]
  · rw [h.store.frame r hr]

lemma lookup_eq (h : s.Extends base z w s') {x : String} (hx : x ≠ z) : s'.lookup x = s.lookup x := by
  rw [State.lookup, State.lookup, h.scope, Store.lookup, Store.lookup]
  exact congrArg s.scope.frames.findSome? (funext (h.find?_eq hx))

lemma inTop_eq (h : s.Extends base z w s') {x : String} (hx : x ≠ z) : s'.inTop x = s.inTop x := by
  rw [State.inTop, State.inTop, h.scope, Table.contains, Table.contains, h.find?_eq hx]

/-- The base frame exists: `z` is bound in it. -/
lemma hasFrame (h : s.Extends base z w s') : s'.store.HasFrame base := by
  by_contra hnone
  have hbound := h.bound z
  rw [Store.frame_of_not_hasFrame hnone, Table.find?_insert, if_pos rfl] at hbound
  cases hbound

/-- Binding another name in the same frame. -/
lemma bindTop (h : s.Extends base z w s') {x : String} (hx : x ≠ z) (v : Value) :
    (s.bindTop x v).Extends base z w (s'.bindTop x v) := by
  refine ⟨h.scope, h.types, h.calls, h.console, ?_, fun y => ?_⟩
  · rw [State.bindTop, State.bindTop, h.scope]
    exact h.store.bind s.scope.top x v
  · show ((s'.store.bind s'.scope.top x v).frame base).find? y =
      (((s.store.bind s.scope.top x v).frame base).insert z w).find? y
    rw [h.scope]
    by_cases htop : base = s.scope.top
    · have hs' : s'.store.HasFrame s.scope.top := by
        rw [← htop]
        exact h.hasFrame
      have hs : s.store.HasFrame s.scope.top := by rwa [Store.HasFrame, ← h.store.size_frames]
      rw [Store.frame_bind _ _ _ _ _ hs, Store.frame_bind _ _ _ _ _ hs', if_pos htop, if_pos htop,
        ← htop, Table.find?_insert, Table.find?_insert, Table.find?_insert, h.bound, Table.find?_insert]
      -- `x` and `z` are two names, so it does not matter which is bound first
      split_ifs with hyx hyz
      · exact absurd (hyx.symm.trans hyz) hx
      all_goals rfl
    · rw [Store.frame_bind_of_ne htop, Store.frame_bind_of_ne htop, h.bound]

/-- A step that changes the same in both stores, and no binding of the base frame. -/
lemma setStore (h : s.Extends base z w s') {st st' : Store} (hstore : st.AgreesOutside {base} st')
    (hst : st.frame base = s.store.frame base) (hst' : st'.frame base = s'.store.frame base) :
    State.Extends base z w { s with store := st } { s' with store := st' } := by
  refine ⟨h.scope, h.types, h.calls, h.console, hstore, fun x => ?_⟩
  show (st'.frame base).find? x = ((st.frame base).insert z w).find? x
  rw [hst, hst', h.bound]

lemma enterFrame (h : s.Extends base z w s') (bindings : Frame) :
    (s.enterFrame bindings).Extends base z w (s'.enterFrame bindings) := by
  have hs' := h.hasFrame
  have hs : s.store.HasFrame base := by rwa [Store.HasFrame, ← h.store.size_frames]
  have hstore := h.setStore (h.store.newFrame bindings) (Store.frame_newFrame_of_lt hs bindings)
    (Store.frame_newFrame_of_lt hs' bindings)
  refine ⟨?_, h.types, h.calls, h.console, hstore.store, hstore.bound⟩
  show s'.scope.push ⟨s'.store.frames.size⟩ = s.scope.push ⟨s.store.frames.size⟩
  rw [h.scope, h.store.size_frames]

end State.Extends

/-! ### What the program finds -/

/-- The value stands in a frame, list or record of the region. -/
inductive Region.Holds (R : Region) (st : Store) (v : Value) : Prop where
  | frame {r : FrameRef} {x : String} : r ∈ R.frames → (st.frame r).find? x = some v → R.Holds st v
  | list {r : ListRef} : r ∈ R.lists → v ∈ st.list r → R.Holds st v
  | record {r : RecordRef} {x : String} : r ∈ R.records → (st.record r).find? x = some v → R.Holds st v

section

variable {R : Region} {st : Store} {v a : Value}

lemma Region.holds_bind {r : FrameRef} {name : String} (h : R.Holds (st.bind r name v) a) :
    R.Holds st a ∨ a = v := by
  cases h with
  | frame hq hx => exact (Store.find?_frame_bind hx).imp_left (.frame hq)
  | list hq hmem => exact Or.inl (.list hq hmem)
  | record hq hx => exact Or.inl (.record hq hx)

lemma Region.holds_newFrame {bindings : Frame} (h : R.Holds (st.newFrame bindings).2 a) :
    R.Holds st a ∨ ∃ x, bindings.find? x = some a := by
  cases h with
  | @frame q x hq hx => exact (Store.find?_frame_newFrame hx).imp (.frame hq) fun hnew => ⟨x, hnew⟩
  | list hq hmem => exact Or.inl (.list hq hmem)
  | record hq hx => exact Or.inl (.record hq hx)

lemma Region.holds_newList {items : Array Value} (h : R.Holds (st.newList items).2 a) :
    R.Holds st a ∨ a ∈ items := by
  cases h with
  | frame hq hx => exact Or.inl (.frame hq hx)
  | list hq hmem => exact (Store.mem_list_newList hmem).imp_left (.list hq)
  | record hq hx => exact Or.inl (.record hq hx)

lemma Region.holds_newRecord {fields : Table Value} (h : R.Holds (st.newRecord fields).2 a) :
    R.Holds st a ∨ ∃ x, fields.find? x = some a := by
  cases h with
  | frame hq hx => exact Or.inl (.frame hq hx)
  | list hq hmem => exact Or.inl (.list hq hmem)
  | @record q x hq hx => exact (Store.find?_record_newRecord hx).imp (.record hq) fun hnew => ⟨x, hnew⟩

lemma Region.holds_append {r : ListRef} (h : R.Holds (st.append r v) a) : R.Holds st a ∨ a = v := by
  cases h with
  | frame hq hx => exact Or.inl (.frame hq hx)
  | list hq hmem => exact (Store.mem_list_append hmem).imp_left (.list hq)
  | record hq hx => exact Or.inl (.record hq hx)

end

/-- The piece of text does not mention the name. -/
def Task.Omits (z : String) (piece : Task) : Prop :=
  z ∉ piece.names

/-- The program runs in a region of the store in which no function mentions the name. -/
structure State.Confined (R : Region) (z : String) (s : State) : Prop where
  closed : R.Closed s.store
  scope : R.HasScope s.scope
  held : ∀ v, R.Holds s.store v → v.Every (Task.Omits z)

/-- States that differ in what the base frame binds a name to, and programs that do not mention the
name. -/
def unmentioned (R : Region) (base : FrameRef) (z : String) (w : Value) : Likeness where
  like s s' := s.Extends base z w s' ∧ s.Confined R z
  value _ v := R.Has v ∧ v.Every (Task.Omits z)
  text := Task.Every (Task.Omits z)
  push _ _ _ := True

/-- A text does not mention the name itself either. -/
lemma Task.Every.omits {z : String} {task : Task} (h : task.Every (Task.Omits z)) {x : String}
    (hx : x ∈ task.names) : x ≠ z := by
  rintro rfl
  cases task with
  | expr e => exact h.expr hx
  | statement st => exact h.statement hx
  | _ => exact absurd hx List.not_mem_nil

lemma State.Confined.value_of_holds {R : Region} {z : String} {s : State} (h : s.Confined R z)
    {v : Value} (hv : R.Holds s.store v) : R.Has v ∧ v.Every (Task.Omits z) := by
  refine ⟨?_, h.held v hv⟩
  cases hv with
  | frame hr hx => exact h.closed.frame _ hr _ v hx
  | list hr hmem => exact h.closed.list _ hr v hmem
  | record hr hx => exact h.closed.record _ hr _ v hx

/-- **Evaluation cannot tell such states apart.** -/
lemma lawful_unmentioned (R : Region) (base : FrameRef) (z : String) (w : Value) :
    (unmentioned R base z w).Lawful where
  twin hst := hst.1.twin
  names hst htext hx := ⟨hst.1.lookup_eq (htext.omits hx), hst.1.inTop_eq (htext.omits hx)⟩
  part htext hpart := htext.part hpart
  inner htext hinner := htext.inner hinner
  body hv hbody := hv.2 _ hbody
  atom h := ⟨Region.has_of_isAtom h, .of_isAtom h⟩
  type _ entry := ⟨Region.has_toValue entry, Value.every_toValue entry⟩
  object {st c r} :=
    ⟨fun h => ⟨h.1, .of_bodies_eq_nil rfl⟩, fun h => ⟨h.1, .of_bodies_eq_nil rfl⟩⟩
  closure {s s' task v} hst htext hscope hbodies := by
    refine ⟨?_, fun body hbody => htext.body (hbodies body hbody)⟩
    cases v with
    | function f | lambda f =>
        show R.HasScope f.scope
        rw [Option.some.inj hscope]
        exact hst.2.scope
    | _ => cases hscope
  value_congr _ hv := hv
  found {s s' x v} hst hv := by
    obtain ⟨r, hr, hx⟩ := List.exists_of_findSome?_eq_some hv
    exact hst.2.value_of_holds (.frame (hst.2.scope r hr) hx)
  item hst hlist hv := hst.2.value_of_holds (.list hlist.1 hv)
  field hst hrecord hv := hst.2.value_of_holds (.record hrecord.1 hv)
  calls calls hst :=
    ⟨⟨hst.1.scope, hst.1.types, rfl, hst.1.console, hst.1.store, hst.1.bound⟩,
      ⟨hst.2.closed, hst.2.scope, hst.2.held⟩⟩
  console console hst :=
    ⟨⟨hst.1.scope, hst.1.types, hst.1.calls, rfl, hst.1.store, hst.1.bound⟩,
      ⟨hst.2.closed, hst.2.scope, hst.2.held⟩⟩
  nextId n hst := by
    refine ⟨hst.1.setStore (hst.1.store.setNextId n) rfl rfl,
      ⟨hst.2.closed.nextId n, hst.2.scope, fun v hv => hst.2.held v ?_⟩⟩
    cases hv with
    | frame hr hx => exact .frame hr hx
    | list hr hmem => exact .list hr hmem
    | record hr hx => exact .record hr hx
  capture {s s' v scope} hst hv hscope := by
    refine ⟨⟨rfl, hst.1.types, hst.1.calls, hst.1.console, hst.1.store, hst.1.bound⟩,
      ⟨hst.2.closed, ?_, hst.2.held⟩⟩
    cases v with
    | function f | lambda f =>
        cases hscope
        exact hv.1
    | _ => cases hscope
  restore hst ht :=
    ⟨⟨hst.1.scope, ht.1.types, ht.1.calls, ht.1.console, ht.1.store, ht.1.bound⟩,
      ⟨ht.2.closed, hst.2.scope, ht.2.held⟩⟩
  frame {s s' bindings} hst hbindings := by
    have hclosed := hst.2.closed
    have htable : R.HasTable bindings := fun x v hx => (hbindings x v hx).1
    refine ⟨hst.1.enterFrame bindings, ⟨hclosed.newFrame htable, ?_, fun v hv => ?_⟩⟩
    · exact Region.hasScope_push hst.2.scope (hclosed.newFrame_mem _ le_rfl)
    · obtain hold | ⟨x, hx⟩ := Region.holds_newFrame hv
      · exact hst.2.held v hold
      · exact (hbindings x v hx).2
  bind {s s' task x v} hst htext hx hv := by
    refine ⟨hst.1.bindTop (htext.omits hx) v,
      ⟨hst.2.closed.bind _ x hv.1, hst.2.scope, fun a ha => ?_⟩⟩
    obtain hold | rfl := Region.holds_bind ha
    · exact hst.2.held a hold
    · exact hv.2
  register {s s' st name} entry hst _ _ := by
    refine ⟨⟨hst.1.scope, ?_, hst.1.calls, hst.1.console, hst.1.store, hst.1.bound⟩,
      ⟨hst.2.closed, hst.2.scope, hst.2.held⟩⟩
    rw [hst.1.types]
  list {s s' items} hst hitems := by
    have hclosed := hst.2.closed
    refine ⟨⟨hst.1.setStore (hst.1.store.newList items) rfl rfl,
      ⟨hclosed.newList fun v hv => (hitems v hv).1, hst.2.scope, fun v hv => ?_⟩⟩, fun _ hv => hv,
      ⟨hclosed.newList_mem _ le_rfl, .of_bodies_eq_nil rfl⟩⟩
    exact (Region.holds_newList hv).elim (hst.2.held v) fun hnew => (hitems v hnew).2
  record {s s' fields} hst hfields := by
    have hclosed := hst.2.closed
    refine ⟨⟨hst.1.setStore (hst.1.store.newRecord fields) rfl rfl,
      ⟨hclosed.newRecord fun x v hx => (hfields x v hx).1, hst.2.scope, fun v hv => ?_⟩⟩,
      fun _ hv => hv, ⟨hclosed.newRecord_mem _ le_rfl, .of_bodies_eq_nil rfl⟩⟩
    obtain hold | ⟨x, hx⟩ := Region.holds_newRecord hv
    · exact hst.2.held v hold
    · exact (hfields x v hx).2
  append {s s' r item} hst _ hitem _ := by
    refine ⟨⟨hst.1.setStore (hst.1.store.append r item) rfl rfl,
      ⟨hst.2.closed.append r hitem.1, hst.2.scope, fun v hv => ?_⟩⟩, fun _ hv => hv⟩
    obtain hold | rfl := Region.holds_append hv
    · exact hst.2.held v hold
    · exact hitem.2

/-! ### Runs -/

/-- What a new interpreter in the store can come to: its base frame, and what it makes. -/
def Store.beyond (heap : Store) : Region where
  frames := {r | heap.frames.size ≤ r.index}
  lists := {r | heap.lists.size ≤ r.index}
  records := {r | heap.records.size ≤ r.index}

section

variable (heap : Store)

/-- Nothing stands beyond the end of the store. -/
lemma Store.not_holds_beyond (v : Value) : ¬ heap.beyond.Holds heap v := by
  intro hv
  cases hv with
  | frame hr hx =>
      rw [Store.frame_of_not_hasFrame (Nat.not_lt.mpr hr)] at hx
      cases hx
  | list hr hmem =>
      rw [Store.list, Array.getElem?_eq_none hr] at hmem
      exact absurd hmem (Array.not_mem_empty v)
  | record hr hx =>
      rw [Store.record, Array.getElem?_eq_none hr] at hx
      cases hx

/-- The prelude binds native functions only. -/
lemma Native.eq_native_of_prelude {x : String} {v : Value} (h : Native.prelude.find? x = some v) :
    ∃ f, v = .native f := by
  obtain ⟨f, -, hf⟩ := List.mem_map.mp (Table.mem_of_find?_ofList h)
  cases hf
  exact ⟨f, rfl⟩

lemma confined_freshIn (z : String) :
    (State.freshIn heap Native.prelude).Confined heap.beyond z := by
  have hnothing := heap.not_holds_beyond
  have hheap : heap.beyond.Closed heap :=
    ⟨fun _ hr _ v hx => absurd (.frame hr hx) (hnothing v),
      fun _ hr v hmem => absurd (.list hr hmem) (hnothing v),
      fun _ hr _ v hx => absurd (.record hr hx) (hnothing v),
      fun _ hr => hr, fun _ hr => hr, fun _ hr => hr⟩
  refine ⟨hheap.newFrame fun x v hx => ?_, fun r hr => ?_, fun v hv => ?_⟩
  · obtain ⟨f, rfl⟩ := Native.eq_native_of_prelude hx
    trivial
  · obtain rfl := List.mem_singleton.mp hr
    exact Nat.le_refl _
  · obtain hold | ⟨x, hx⟩ := Region.holds_newFrame hv
    · exact absurd hold (hnothing v)
    · obtain ⟨f, rfl⟩ := Native.eq_native_of_prelude hx
      exact .of_bodies_eq_nil rfl

lemma extends_freshIn (globals : Frame) (z : String) (w : Value) :
    (State.freshIn heap globals).Extends ⟨heap.frames.size⟩ z w
      (State.freshIn heap (globals.insert z w)) := by
  refine ⟨rfl, rfl, rfl, rfl, ⟨fun r hr => ?_, ?_, rfl, rfl, rfl⟩, fun x => ?_⟩
  · have hindex : r.index ≠ heap.frames.size := fun heq => hr (by rw [← heq]; rfl)
    simp [State.freshIn, Store.newFrame, Store.frame, Array.getElem?_push, hindex]
  · simp [State.freshIn, Store.newFrame]
  · exact congrArg (·.find? x) ((Store.frame_newFrame heap _).trans
      (congrArg (·.insert z w) (Store.frame_newFrame heap globals).symm))

end

/-- What is reported about a failure is the same. -/
lemma State.Extends.reportFailure {base : FrameRef} {z : String} {w : Value} {s s' : State}
    (h : s.Extends base z w s') (e : Error) :
    (s.reportFailure e).Extends base z w (s'.reportFailure e) := by
  refine ⟨h.scope, h.types, rfl, ?_, h.store, h.bound⟩
  simp only [State.reportFailure, h.calls, h.console]

/-- **Globals that a program does not mention are harmless.** Take a program that does not read a name
outside of patterns, does not assign it, and does not define it as a constant, class, group or function.
Then it makes no difference whether a new interpreter binds the name to some value, be it instead of
what the prelude binds it to: the report and the console are the same, and so are the final states, but
that the base frame of the one binds the name to the value. -/
theorem unmentioned_global_is_harmless (config : Config) (z : String) (w : Value) (program : Program)
    (hz : ∀ piece ∈ Statement.piecesAll program, z ∉ piece.names) (heap : Store) :
    let plain := run config program (.freshIn heap Native.prelude)
    let extended := run config program (.freshIn heap (Native.prelude.insert z w))
    extended.1 = plain.1 ∧ extended.2.console.lines = plain.2.console.lines ∧
      plain.2.Extends ⟨heap.frames.size⟩ z w extended.2 := by
  intro plain extended
  have hstart := And.intro (extends_freshIn heap Native.prelude z w) (confined_freshIn heap z)
  have hagree : (unmentioned heap.beyond ⟨heap.frames.size⟩ z w).Agree _ _
      (Job.outcome config ⟨.statements program, .freshIn heap Native.prelude⟩)
      (Job.outcome config ⟨.statements program, .freshIn heap (Native.prelude.insert z w)⟩) :=
    (lawful_unmentioned _ _ z w).agree (fun _ _ _ => trivial) config hstart hz
  have hends : extended.1 = plain.1 ∧ plain.2.Extends ⟨heap.frames.size⟩ z w extended.2 := by
    simp only [plain, extended, run_eq_ofOutcome]
    generalize Job.outcome config ⟨.statements program, .freshIn heap Native.prelude⟩ = r at hagree ⊢
    generalize Job.outcome config ⟨.statements program, _⟩ = r' at hagree ⊢
    cases hagree with
    | ok hafter _ => exact ⟨rfl, hafter.like.1⟩
    | @error i t t' hafter _ =>
        cases i with
        | returned v => exact ⟨rfl, hafter.like.1⟩
        | failed e => exact ⟨rfl, hafter.like.1.reportFailure e⟩
  exact ⟨hends.1, congrArg Console.lines hends.2.console, hends.2⟩

/-- The name `push` stands for a list of the host. A program that has the name in a pattern logs the
same as with the plain prelude, and leaves the list under the name. -/
theorem pattern_hides_replaced_push :
    let heap : Store := { lists := #[#[.boolean true]] }
    let program : Program :=
      [.log (.select (.literal (.boolean true) default)
        [(.identifier "push" default, .mk [] (some (.literal .null default)))] default) default]
    let plain := run default program (.freshIn heap Native.prelude)
    let extended := run default program (.freshIn heap (Native.prelude.insert "push" (.list ⟨0⟩)))
    (∀ piece ∈ Statement.piecesAll program, "push" ∉ piece.names) ∧
      extended.1 = plain.1 ∧ extended.2.console.lines = #["nil"] ∧
      (extended.2.store.frame ⟨0⟩).find? "push" = some (.list ⟨0⟩) := by
  intro heap program plain extended
  have hz : ∀ piece ∈ Statement.piecesAll program, "push" ∉ piece.names := by decide
  obtain ⟨hreport, hlines, hextends⟩ :=
    unmentioned_global_is_harmless default "push" (.list ⟨0⟩) program hz heap
  have hplain : plain.2.console.lines = #["nil"] := by decide +kernel
  refine ⟨hz, hreport, hlines.trans hplain, (hextends.bound "push").trans ?_⟩
  rw [Table.find?_insert, if_pos rfl]

end RecordLang
