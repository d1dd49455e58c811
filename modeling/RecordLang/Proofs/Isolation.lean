import RecordLang.Proofs.Coupling.Evaluation

/-!
Calls see what they are given and nothing else.

A function finds the frames that it captured, and through the values bound there and through its
argument whatever can be reached from these. The scope of the caller, and frames that cannot be reached,
have no influence on the call: neither on its result nor on anything that it leaves behind.

* `Node`, `Store.Refers`, `Store.Reaches`: what can be reached from a value.
* `Store.reached`: the region of what can be reached, and of all that is still to be made. It is closed,
  and every closed region that has the value contains it.
* `State.AgreesOutside`: states that differ in their scopes and in the bindings of some frames at most.
* `call_ignores_unreachable`: the statement about calls.
-/

namespace RecordLang

/-! ### What can be reached -/

/-- A value or a frame. -/
inductive Node where
  | value (v : Value)
  | frame (r : FrameRef)

/-- The first node directly refers to the second: a function to a frame that it captured, a frame to a
value bound in it, a list to an item, a record or an object to the value of a field. -/
inductive Store.Refers (st : Store) : Node → Node → Prop where
  | function {f : MatchFunction} {r : FrameRef} :
      r ∈ f.scope.frames → st.Refers (.value (.function f)) (.frame r)
  | lambda {f : Lambda} {r : FrameRef} :
      r ∈ f.scope.frames → st.Refers (.value (.lambda f)) (.frame r)
  | binding {r : FrameRef} {x : String} {v : Value} :
      (st.frame r).find? x = some v → st.Refers (.frame r) (.value v)
  | item {r : ListRef} {v : Value} : v ∈ st.list r → st.Refers (.value (.list r)) (.value v)
  | field {r : RecordRef} {x : String} {v : Value} :
      (st.record r).find? x = some v → st.Refers (.value (.record r)) (.value v)
  | objectField {c : Class} {r : RecordRef} {x : String} {v : Value} :
      (st.record r).find? x = some v → st.Refers (.value (.object c r)) (.value v)

/-- The second node can be reached from the first. -/
def Store.Reaches (st : Store) : Node → Node → Prop :=
  Relation.ReflTransGen st.Refers

/-- The node can be reached from one of the values. -/
def Store.ReachedFrom (st : Store) (values : List Value) (n : Node) : Prop :=
  ∃ v ∈ values, st.Reaches (.value v) n

/-- What can be reached from the values, together with everything that does not exist yet. -/
def Store.reached (st : Store) (values : List Value) : Region where
  frames := {r | st.ReachedFrom values (.frame r) ∨ st.frames.size ≤ r.index}
  lists := {r | st.ReachedFrom values (.value (.list r)) ∨ st.lists.size ≤ r.index}
  records := {r | (st.ReachedFrom values (.value (.record r)) ∨
    ∃ c, st.ReachedFrom values (.value (.object c r))) ∨ st.records.size ≤ r.index}

section

variable {st : Store} {values : List Value}

lemma Store.ReachedFrom.step {n m : Node} (h : st.ReachedFrom values n) (hm : st.Refers n m) :
    st.ReachedFrom values m := by
  obtain ⟨v, hv, hreaches⟩ := h
  exact ⟨v, hv, hreaches.tail hm⟩

/-- A value that can be reached belongs to the region. -/
lemma Store.has_reached {v : Value} (h : st.ReachedFrom values (.value v)) :
    (st.reached values).Has v := by
  cases v with
  | list r => exact Or.inl h
  | record r => exact Or.inl (Or.inl h)
  | object c r => exact Or.inl (Or.inr ⟨c, h⟩)
  | function f => exact fun r hr => Or.inl (h.step (.function hr))
  | lambda f => exact fun r hr => Or.inl (h.step (.lambda hr))
  | _ => trivial

/-- What can be reached refers to nothing that cannot. -/
lemma Store.closed_reached (st : Store) (values : List Value) : (st.reached values).Closed st := by
  refine ⟨?_, ?_, ?_, fun r => Or.inr, fun r => Or.inr, fun r => Or.inr⟩
  · rintro r (hr | hr) x v hv
    · exact Store.has_reached (hr.step (.binding hv))
    · rw [Store.frame_of_not_hasFrame (by rw [Store.HasFrame]; omega)] at hv
      exact absurd hv (by simp)
  · rintro r (hr | hr) v hv
    · exact Store.has_reached (hr.step (.item hv))
    · rw [Store.list, Array.getElem?_eq_none hr] at hv
      exact absurd hv (by simp)
  · rintro r ((hr | ⟨c, hr⟩) | hr) x v hv
    · exact Store.has_reached (hr.step (.field hv))
    · exact Store.has_reached (hr.step (.objectField hv))
    · rw [Store.record, Array.getElem?_eq_none hr] at hv
      exact absurd hv (by simp)

/-- The node belongs to the region. -/
def Region.HasNode (R : Region) : Node → Prop
  | .value v => R.Has v
  | .frame r => r ∈ R.frames

/-- What can be reached from a closed region belongs to it. -/
lemma Region.Closed.hasNode_of_reaches {R : Region} (h : R.Closed st) {n m : Node}
    (hn : R.HasNode n) (hreaches : st.Reaches n m) : R.HasNode m := by
  induction hreaches with
  | refl => exact hn
  | tail _ hstep ih =>
      cases hstep with
      | function hr => exact ih _ hr
      | lambda hr => exact ih _ hr
      | binding hv => exact h.frame _ ih _ _ hv
      | item hv => exact h.list _ ih _ hv
      | field hv => exact h.record _ ih _ _ hv
      | objectField hv => exact h.record _ ih _ _ hv

end

/-! ### Calls in states that differ -/

/-- More frames may differ. -/
lemma Store.AgreesOutside.mono {U V : Set FrameRef} {st st' : Store} (h : st.AgreesOutside U st')
    (hsub : U ⊆ V) : st.AgreesOutside V st' :=
  ⟨fun r hr => h.frame r fun hU => hr (hsub hU), h.size_frames, h.lists, h.records, h.nextId⟩

/-- Only frames that exist can differ. -/
lemma Store.AgreesOutside.existing {U : Set FrameRef} {st st' : Store} (h : st.AgreesOutside U st') :
    st.AgreesOutside {r | r ∈ U ∧ st.HasFrame r} st' := by
  refine ⟨fun r hr => ?_, h.size_frames, h.lists, h.records, h.nextId⟩
  by_cases hexists : st.HasFrame r
  · exact h.frame r fun hU => hr ⟨hU, hexists⟩
  · have hexists' : ¬ st'.HasFrame r := by rwa [Store.HasFrame, h.size_frames]
    rw [Store.frame_of_not_hasFrame hexists, Store.frame_of_not_hasFrame hexists']

/-- The states differ in their scopes and in the bindings of the given frames at most. -/
structure State.AgreesOutside (U : Set FrameRef) (s t : State) : Prop where
  store : s.store.AgreesOutside U t.store
  types : t.types = s.types
  calls : t.calls = s.calls
  console : t.console = s.console

/-- Two runs confined to a region, in which all errors count. -/
def Region.confined (R : Region) (hidden : Set FrameRef) (h : ∀ r ∈ R.frames, r ∉ hidden) :
    Coupling where
  hidden := hidden
  region := R
  visible := h
  calls := []
  calls' := []
  same := Eq
  same_refl := fun _ _ => rfl
  departure? := fun _ => none

/-- Outcomes of runs confined to a region end in the same way. -/
lemma Region.confined_corresponds {R : Region} {hidden : Set FrameRef}
    {h : ∀ r ∈ R.frames, r ∉ hidden} {rel : State → State → Prop} {P : Value → Prop}
    {r r' : EStateM.Result Error State Value}
    (hr : (R.confined hidden h).Corresponds rel P r r') :
    ending r' = ending r ∧ rel (finalState r) (finalState r') := by
  cases hr with
  | ok _ hst => exact ⟨rfl, hst⟩
  | error hi hst =>
      obtain _ | hsame := hi
      exact ⟨congrArg Except.error (Eq.symm hsame), hst⟩
  | departed _ hlines _ => cases hlines

/-- **A call ignores what it cannot reach.** Let no frame of `U` be reachable from a value and an
argument. Then calling the value with the argument has the same result, or the same error, in any two
states that agree but for their scopes and the bindings in frames of `U`; it writes the same lines to
the console, and it leaves states that agree in this sense again. -/
theorem call_ignores_unreachable (config : Config) (U : Set FrameRef) (target argument : Value)
    (span : Span) (s t : State)
    (htarget : ∀ r ∈ U, ¬ s.store.Reaches (.value target) (.frame r))
    (hargument : ∀ r ∈ U, ¬ s.store.Reaches (.value argument) (.frame r))
    (hagree : s.AgreesOutside U t) :
    ending (call config target argument span t) = ending (call config target argument span s) ∧
    (∃ lines,
      (finalState (call config target argument span s)).console.lines.toList
        = s.console.lines.toList ++ lines ∧
      (finalState (call config target argument span t)).console.lines.toList
        = t.console.lines.toList ++ lines) ∧
    (finalState (call config target argument span s)).AgreesOutside U
      (finalState (call config target argument span t)) := by
  -- Frames of `U` that do not exist yet will be made alike in both runs, so they are not hidden.
  let R : Region := s.store.reached [target, argument]
  let hidden : Set FrameRef := {r | r ∈ U ∧ s.store.HasFrame r}
  have hvisible : ∀ r ∈ R.frames, r ∉ hidden := by
    rintro r (⟨v, hv, hreaches⟩ | hnew) ⟨hU, hexists⟩
    · obtain rfl | hmem := List.mem_cons.mp hv
      · exact htarget r hU hreaches
      · obtain rfl := List.mem_singleton.mp hmem
        exact hargument r hU hreaches
    · exact absurd hexists (Nat.not_lt.mpr hnew)
  let k : Coupling := R.confined hidden hvisible
  have hstart : k.Alike s t := by
    refine ⟨hagree.store.existing, s.store.closed_reached _, hagree.types, hagree.console, s.calls,
      ?_, ?_⟩
    · exact (List.append_nil _).symm
    · rw [hagree.calls]
      exact (List.append_nil _).symm
  have hcalls : k.Calls config config (s.room config) (s.room config) :=
    callWithin_coupled (fun name v span hv => coupled_define _ name hv span rfl)
      (k.calls_zero fun _ => rfl) (s.room config)
  have hroom : t.room config = s.room config := by rw [State.room, State.room, hagree.calls]
  have hhas : ∀ v ∈ [target, argument], R.Has v := fun v hv => Store.has_reached ⟨v, hv, .refl⟩
  have houtcome := hcalls target argument span (hhas _ (by simp)) (hhas _ (by simp)) s t hstart
  rw [call, call, hroom]
  obtain ⟨hending, hfinal⟩ := Region.confined_corresponds houtcome
  obtain ⟨lines, hlines⟩ :=
    (callWithin_effect config (s.room config) target argument span).addsLines s
  refine ⟨hending, ⟨lines, hlines.symm, ?_⟩, hfinal.store.mono fun r => And.left, hfinal.types, ?_,
    hfinal.console⟩
  · rw [hfinal.console, hagree.console, hlines]
  · obtain ⟨recorded, hs, ht⟩ := hfinal.calls
    exact ht.trans hs.symm

/-- A function that was defined outside and returns a global name is called in two states. The innermost
frame of the caller binds the same name, to something else in each of them: both calls give the global
value. -/
theorem peek_ignores_locals_of_caller :
    let peek : Value := .function
      ⟨0, "peek", [(.identifier "x" default, .mk [] (some (.identifier "secret" default)))], ⟨[], ⟨0⟩⟩⟩
    let store (own : Bool) : Store :=
      { frames := #[.ofList [("secret", .string "global")], .ofList [("secret", .boolean own)]] }
    let s : State := { store := store true, scope := ⟨[⟨1⟩], ⟨0⟩⟩ }
    let t : State := { store := store false, scope := ⟨[], ⟨1⟩⟩ }
    (∀ r ∈ ({⟨1⟩} : Set FrameRef), ¬ s.store.Reaches (.value peek) (.frame r)) ∧
      s.AgreesOutside {⟨1⟩} t ∧
      ending (call default peek .nil default s) = .ok (.string "global") ∧
      ending (call default peek .nil default t) = .ok (.string "global") := by
  intro peek store s t
  let R : Region := ⟨{r | r ≠ ⟨1⟩}, Set.univ, Set.univ⟩
  have hclosed : R.Closed s.store := by
    refine ⟨fun r hr => ?_, fun r _ v hv => ?_, fun r _ => Region.hasTable_empty, fun r hr => ?_,
      fun _ _ => trivial, fun _ _ => trivial⟩
    · obtain ⟨_ | _ | i⟩ := r
      · exact Region.hasTable_ofList (List.forall_mem_singleton.mpr trivial)
      · exact absurd rfl hr
      · exact Region.hasTable_empty
    · exact absurd hv (Array.not_mem_empty v)
    · rintro rfl
      exact absurd hr (by decide)
  have hreach : ∀ v : Value, R.Has v → ∀ r ∈ ({⟨1⟩} : Set FrameRef),
      ¬ s.store.Reaches (.value v) (.frame r) :=
    fun v hv r hr hreaches => hclosed.hasNode_of_reaches (n := .value v) hv hreaches hr
  have hpeek : R.Has peek := by
    intro r hr
    obtain rfl := List.mem_singleton.mp hr
    decide
  have hagree : s.AgreesOutside {⟨1⟩} t := by
    refine ⟨⟨fun r hr => ?_, rfl, rfl, rfl, rfl⟩, rfl, rfl, rfl⟩
    obtain ⟨_ | _ | i⟩ := r
    · rfl
    · exact absurd rfl hr
    · rfl
  have hs : ending (call default peek .nil default s) = .ok (.string "global") := rfl
  refine ⟨hreach peek hpeek, hagree, hs, ?_⟩
  rw [← hs]
  exact (call_ignores_unreachable default {⟨1⟩} peek .nil default s t (hreach peek hpeek)
    (hreach .nil trivial) hagree).1

end RecordLang
