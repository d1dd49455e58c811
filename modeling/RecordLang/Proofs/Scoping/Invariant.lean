import RecordLang.Proofs.Frames
import RecordLang.Proofs.Results
import RecordLang.Proofs.Scoping.Check

/-!
Functions that see what their bodies use.

A function value carries the scope of its definition. It is well scoped if every name that its body was
checked with is bound in that scope, or is one of its parameters. Frames never lose a name, so a
function that is well scoped once stays so; what has to be shown is that only such functions are
stored.

* `Store.Sees`: a name is bound in some frame of a scope.
* `Value.Scoped`, `Store.Scoped`: the invariant of values and of the store.
* `Value.Scoped.mono`, `Store.Scoped.step`: the invariant along the steps of evaluation.
* `Pattern.scoped_of_match?`: what a match binds has it.
-/

namespace RecordLang

/-! ### Names in scope -/

/-- The name is bound in some frame of the scope. -/
def Store.Sees (st : Store) (scope : Scope) (x : String) : Prop :=
  ∃ r ∈ scope.frames, (st.frame r).contains x = true

/-- No frame has lost a name. -/
def Store.KeepsNames (st st' : Store) : Prop :=
  ∀ r x, (st.frame r).contains x = true → (st'.frame r).contains x = true

lemma Store.isSome_lookup_iff {st : Store} {scope : Scope} {x : String} :
    (st.lookup scope x).isSome = true ↔ st.Sees scope x := by
  simp only [Store.lookup, Store.Sees, Table.contains, List.isSome_findSome?, List.any_eq_true]

lemma Store.Sees.mono {st st' : Store} {scope : Scope} {x : String} (h : st.Sees scope x)
    (hkeep : st.KeepsNames st') : st'.Sees scope x := by
  obtain ⟨r, hr, hx⟩ := h
  exact ⟨r, hr, hkeep r x hx⟩

lemma Store.KeepsNames.refl (st : Store) : st.KeepsNames st :=
  fun _ _ h => h

/-- Evaluation keeps all names of all frames. -/
lemma Effect.keepsNames {names : List String} {s t : State} {i : Option Interrupt}
    (h : Effect names s i t) : s.store.KeepsNames t.store :=
  fun _ _ hx => h.contains_of_contains hx

/-! ### The invariant -/

/-- A function sees the names with which its body was checked. Other values ask for nothing. -/
def Value.Scoped (st : Store) : Value → Prop
  | .function f =>
      ∃ visible, (∀ x ∈ visible, st.Sees f.scope x) ∧ Block.scopedArms visible f.arms = true
  | .lambda f =>
      ∃ visible, (∀ x ∈ visible, x ∈ f.params.keys ∨ st.Sees f.scope x) ∧
        f.body.scopedIn visible = true
  | _ => True

/-- All functions in the store see the names with which their bodies were checked. -/
def Store.Scoped (st : Store) : Prop :=
  ∀ v, st.Holds v → v.Scoped st

lemma Value.Scoped.mono {st st' : Store} {v : Value} (h : v.Scoped st)
    (hkeep : st.KeepsNames st') : v.Scoped st' := by
  cases v with
  | function f =>
      obtain ⟨visible, hsees, harms⟩ := h
      exact ⟨visible, fun x hx => (hsees x hx).mono hkeep, harms⟩
  | lambda f =>
      obtain ⟨visible, hsees, hbody⟩ := h
      exact ⟨visible, fun x hx => (hsees x hx).imp_right fun hs => hs.mono hkeep, hbody⟩
  | _ => trivial

/-- A step keeps the invariant if no frame loses a name and what it stores anew has it. -/
lemma Store.Scoped.step {st st' : Store} (h : st.Scoped) (hkeep : st.KeepsNames st')
    (hnew : ∀ v, st'.Holds v → st.Holds v ∨ v.Scoped st') : st'.Scoped := by
  intro v hv
  obtain hold | hscoped := hnew v hv
  · exact (h v hold).mono hkeep
  · exact hscoped

namespace Store.Scoped

variable {st : Store}

lemma bind (h : st.Scoped) {r : FrameRef} {name : String} {v : Value}
    (hv : v.Scoped (st.bind r name v)) : (st.bind r name v).Scoped := by
  refine h.step (fun q x hx => Store.contains_frame_bind hx r name v) fun w hw => ?_
  obtain hold | rfl := Store.holds_bind hw
  · exact Or.inl hold
  · exact Or.inr hv

lemma keepsNames_newFrame (st : Store) (bindings : Frame) :
    st.KeepsNames (st.newFrame bindings).2 := by
  intro r x hx
  by_cases hr : st.HasFrame r
  · rwa [Store.frame_newFrame_of_lt hr]
  · rw [Store.frame_of_not_hasFrame hr] at hx
    exact absurd hx (by simp)

lemma newFrame (h : st.Scoped) {bindings : Frame}
    (hb : ∀ x v, bindings.find? x = some v → v.Scoped st) : (st.newFrame bindings).2.Scoped := by
  refine h.step (keepsNames_newFrame st bindings) fun w hw => ?_
  obtain hold | ⟨x, hx⟩ := Store.holds_newFrame hw
  · exact Or.inl hold
  · exact Or.inr ((hb x w hx).mono (keepsNames_newFrame st bindings))

lemma newList (h : st.Scoped) {items : Array Value} (hi : ∀ v ∈ items, v.Scoped st) :
    (st.newList items).2.Scoped := by
  refine h.step (Store.KeepsNames.refl st) fun w hw => ?_
  exact (Store.holds_newList hw).imp_right fun hmem => (hi w hmem).mono (Store.KeepsNames.refl st)

lemma newRecord (h : st.Scoped) {fields : Table Value}
    (hf : ∀ x v, fields.find? x = some v → v.Scoped st) : (st.newRecord fields).2.Scoped := by
  refine h.step (Store.KeepsNames.refl st) fun w hw => ?_
  obtain hold | ⟨x, hx⟩ := Store.holds_newRecord hw
  · exact Or.inl hold
  · exact Or.inr ((hf x w hx).mono (Store.KeepsNames.refl st))

lemma append (h : st.Scoped) {r : ListRef} {item : Value} (hi : item.Scoped st) :
    (st.append r item).Scoped := by
  refine h.step (Store.KeepsNames.refl st) fun w hw => ?_
  obtain hold | rfl := Store.holds_append hw
  · exact Or.inl hold
  · exact Or.inr (hi.mono (Store.KeepsNames.refl st))

lemma nextId (h : st.Scoped) (n : Nat) : { st with nextId := n }.Scoped :=
  h.step (Store.KeepsNames.refl st) fun _ hw => Or.inl (Store.holds_nextId hw)

end Store.Scoped

/-- The values that a match binds have the invariant. -/
lemma Pattern.scoped_of_match? {types : Registry} {st : Store} (hst : st.Scoped) {p : Expr}
    {v : Value} (hv : v.Scoped st) {bs : Bindings} (h : match? types st p v = .ok (some bs)) :
    ∀ b ∈ bs, b.2.Scoped st := by
  intro b hb
  obtain heq | hheld := Pattern.holds_of_match? h b hb
  · rw [heq]
    exact hv
  · exact hst b.2 hheld

end RecordLang
