import RecordLang.Proofs.Effect.Evaluation

/-!
What evaluation does to the frames that exist.

Frames are shared: a function keeps the frames of its definition, and the caller's frames wait while it
runs. Evaluation writes into none of them except the innermost frame of the current scope, there only
where a statement of the running list says so, and it hands the scope back as it found it.

* `Effect.frame_eq`: every frame but the innermost keeps its bindings, and that one does if no name may
  be bound.
* `Effect.find?_eq`: in the innermost frame only the named bindings change.
* `Effect.contains_of_contains`: no frame ever loses a name.
* `evaluation_writes_innermost_frame_only`, `evaluation_restores_scope`: both facts for every piece of
  evaluation.
-/

namespace RecordLang

/-! ### Frames in the store -/

lemma Scope.top_mem_frames (scope : Scope) : scope.top ∈ scope.frames := by
  obtain ⟨inner, base⟩ := scope
  cases inner <;> simp [Scope.top, Scope.frames]

lemma Scope.frames_eq_cons (scope : Scope) : scope.frames = scope.top :: scope.frames.tail := by
  rw [Scope.frames, Scope.top]
  cases scope.inner <;> rfl

/-- The frame has been made. -/
def Store.HasFrame (st : Store) (r : FrameRef) : Prop :=
  r.index < st.frames.size

instance (st : Store) (r : FrameRef) : Decidable (st.HasFrame r) :=
  inferInstanceAs (Decidable (r.index < st.frames.size))

namespace Store

lemma frame_bind_of_ne {st : Store} {r q : FrameRef} (h : q ≠ r) (name : String) (v : Value) :
    (st.bind r name v).frame q = st.frame q := by
  have hi : ¬ r.index = q.index := by
    intro e
    obtain ⟨i⟩ := r
    obtain ⟨j⟩ := q
    exact h (by rw [show j = i from e.symm])
  simp [bind, frame, Array.getElem?_modify, hi]

/-- Binding a name takes no other name away. -/
lemma find?_frame_bind_of_ne {x name : String} (h : x ≠ name) (st : Store) (r q : FrameRef)
    (v : Value) : ((st.bind r name v).frame q).find? x = (st.frame q).find? x := by
  by_cases hq : q = r
  · subst hq
    simp only [bind, frame, Array.getElem?_modify, if_true]
    cases st.frames[q.index]? with
    | none => rfl
    | some bindings => simp [Table.find?_insert, h]
  · rw [frame_bind_of_ne hq]

lemma contains_frame_bind {st : Store} {q : FrameRef} {x : String}
    (h : (st.frame q).contains x = true) (r : FrameRef) (name : String) (v : Value) :
    ((st.bind r name v).frame q).contains x = true := by
  by_cases hq : q = r
  · subst hq
    simp only [bind, frame, Array.getElem?_modify, if_true] at h ⊢
    cases hf : st.frames[q.index]? with
    | none => exact absurd h (by simp [hf])
    | some bindings =>
        rw [hf] at h
        by_cases hx : x = name
        · simp [Table.contains, Table.find?_insert, hx]
        · simpa [Table.contains, Table.find?_insert, hx] using h
  · rwa [frame_bind_of_ne hq]

lemma size_frames_bind (st : Store) (r : FrameRef) (name : String) (v : Value) :
    (st.bind r name v).frames.size = st.frames.size := by
  simp [bind]

/-- A new frame leaves those that exist alone. -/
lemma frame_newFrame_of_lt {st : Store} {q : FrameRef} (h : st.HasFrame q) (bindings : Frame) :
    (st.newFrame bindings).2.frame q = st.frame q := by
  have hne : ¬ q.index = st.frames.size := Nat.ne_of_lt h
  simp [newFrame, frame, Array.getElem?_push, hne]

/-- A frame that does not exist yet binds nothing. -/
lemma frame_of_not_hasFrame {st : Store} {q : FrameRef} (h : ¬ st.HasFrame q) :
    st.frame q = .empty := by
  have hnone : st.frames[q.index]? = none := Array.getElem?_eq_none (by simpa [HasFrame] using h)
  simp [frame, hnone]

/-- Only what the frames of a scope have under a name decides what the name stands for. -/
lemma lookup_congr {st st' : Store} {scope : Scope} {x : String}
    (h : ∀ r ∈ scope.frames, (st.frame r).find? x = (st'.frame r).find? x) :
    st.lookup scope x = st'.lookup scope x := by
  rw [lookup, lookup]
  generalize scope.frames = frames at h
  induction frames with
  | nil => rfl
  | cons r rest ih =>
      obtain ⟨hr, hrest⟩ := List.forall_mem_cons.mp h
      rw [List.findSome?_cons, List.findSome?_cons, hr, ih hrest]

end Store

/-- The frame entered last exists. -/
lemma State.hasFrame_top_enterFrame (s : State) (bindings : Frame) :
    (s.enterFrame bindings).store.HasFrame (s.enterFrame bindings).scope.top := by
  show s.store.frames.size < (s.store.frames.push bindings).size
  simp

/-- The innermost frame is searched first. -/
lemma State.lookup_of_top {s : State} {x : String} {v : Value}
    (h : (s.store.frame s.scope.top).find? x = some v) : s.lookup x = some v := by
  rw [State.lookup, Store.lookup, Scope.frames_eq_cons, List.findSome?_cons, h]

/-! ### Effects on frames -/

namespace Effect

variable {names : List String} {s t : State} {i : Option Interrupt}

/-- Frames are never taken away. -/
lemma size_frames_le (h : Effect names s i t) : s.store.frames.size ≤ t.store.frames.size := by
  induction h with
  | seq _ _ ih₁ ih₂ => exact ih₁.trans ih₂
  | @bind _ s name v _ => exact (Store.size_frames_bind s.store _ name v).ge
  | @frame _ _ s _ _ bindings _ ih =>
      refine le_trans ?_ ih
      simp [State.enterFrame, Store.newFrame]
  | scope _ ih => exact ih
  | call _ ih => exact ih
  | callFailed _ ih => exact ih
  | settle _ ih => exact ih
  | _ => exact le_rfl

lemma hasFrame (h : Effect names s i t) {r : FrameRef} (hr : s.store.HasFrame r) :
    t.store.HasFrame r :=
  lt_of_lt_of_le hr h.size_frames_le

/-- An innermost frame that exists is still there afterwards, and still the innermost. -/
lemma hasFrame_top (h : Effect names s i t) (htop : s.store.HasFrame s.scope.top) :
    t.store.HasFrame t.scope.top := by
  rw [h.scope_eq]
  exact h.hasFrame htop

/-- The innermost frame of a state that has just entered one is new. -/
lemma ne_top_enterFrame {r : FrameRef} (hr : s.store.HasFrame r) (bindings : Frame) :
    r ≠ (s.enterFrame bindings).scope.top := by
  rintro rfl
  exact absurd hr (Nat.lt_irrefl _)

lemma hasFrame_enterFrame {r : FrameRef} (hr : s.store.HasFrame r) (bindings : Frame) :
    (s.enterFrame bindings).store.HasFrame r := by
  have hsize : (s.enterFrame bindings).store.frames.size = s.store.frames.size + 1 := by
    simp [State.enterFrame, Store.newFrame]
  rw [Store.HasFrame, hsize]
  exact Nat.lt_succ_of_lt hr

/-- A frame that exists keeps its bindings, unless it is the innermost and names may be bound. Inside a
frame of its own the innermost frame is a new one, and in another scope nothing may be bound. -/
lemma frame_eq (h : Effect names s i t) {r : FrameRef} (hr : s.store.HasFrame r)
    (htop : r = s.scope.top → names = []) : t.store.frame r = s.store.frame r := by
  induction h with
  | seq h₁ _ ih₁ ih₂ =>
      rw [ih₂ (h₁.hasFrame hr) (by rwa [h₁.scope_eq]), ih₁ hr htop]
  | @bind names s name v hmem =>
      refine Store.frame_bind_of_ne (fun e => ?_) name v
      rw [htop e] at hmem
      exact absurd hmem List.not_mem_nil
  | @frame _ _ s _ _ bindings _ ih =>
      have hne := ne_top_enterFrame hr bindings
      rw [ih (hasFrame_enterFrame hr bindings) fun e => absurd e hne]
      exact Store.frame_newFrame_of_lt hr bindings
  | scope _ ih => exact ih hr fun _ => rfl
  | call _ ih => exact ih hr fun _ => rfl
  | callFailed _ ih => exact ih hr fun _ => rfl
  | settle _ ih => exact ih hr htop
  | _ => rfl

/-- In a frame that exists only the given names can change. -/
lemma find?_eq (h : Effect names s i t) {r : FrameRef} (hr : s.store.HasFrame r) {x : String}
    (hx : x ∉ names) : (t.store.frame r).find? x = (s.store.frame r).find? x := by
  induction h with
  | seq h₁ _ ih₁ ih₂ => rw [ih₂ (h₁.hasFrame hr) hx, ih₁ hr hx]
  | @bind names s name v hmem =>
      have hne : x ≠ name := by
        rintro rfl
        exact hx hmem
      exact Store.find?_frame_bind_of_ne hne s.store _ r v
  | @frame _ _ s t i _ h _ =>
      have hkept : Effect [] s i { t with scope := s.scope } := .frame h
      rw [hkept.frame_eq hr fun _ => rfl]
  | @scope _ s t i _ h _ =>
      have hkept : Effect [] s i { t with scope := s.scope } := .scope h
      rw [hkept.frame_eq hr fun _ => rfl]
  | @call _ s t _ h _ =>
      have hkept : Effect [] s none { t with calls := s.calls } := .call h
      rw [hkept.frame_eq hr fun _ => rfl]
  | @callFailed _ s t e _ h _ =>
      have hkept : Effect [] s (some (.failed e)) t := .callFailed h
      rw [hkept.frame_eq hr fun _ => rfl]
  | settle _ ih => exact ih hr hx
  | _ => rfl

/-- No frame ever loses a name. A frame that does not exist yet has none to lose. -/
lemma contains_of_contains (h : Effect names s i t) {r : FrameRef} {x : String}
    (hx : (s.store.frame r).contains x = true) : (t.store.frame r).contains x = true := by
  have hr : s.store.HasFrame r := by
    by_contra hno
    rw [Store.frame_of_not_hasFrame hno] at hx
    exact absurd hx (by simp)
  induction h with
  | seq h₁ _ ih₁ ih₂ => exact ih₂ (ih₁ hx hr) (h₁.hasFrame hr)
  | @bind _ s name v _ => exact Store.contains_frame_bind hx s.scope.top name v
  | @frame _ _ s _ _ bindings _ ih =>
      refine ih ?_ (hasFrame_enterFrame hr bindings)
      rw [show (s.enterFrame bindings).store.frame r = s.store.frame r from
        Store.frame_newFrame_of_lt hr bindings]
      exact hx
  | scope _ ih => exact ih hx hr
  | call _ ih => exact ih hx hr
  | callFailed _ ih => exact ih hx hr
  | settle _ ih => exact ih hx hr
  | _ => exact hx

end Effect

/-! ### Every piece of evaluation -/

/-- **Evaluation writes into the innermost frame only.** However it ends, and with any number of places
left for calls, an expression or a call leaves the bindings of every frame that exists as they were;
statements change at most the innermost frame of the scope, and in it only names that one of these
statements defines or assigns itself. -/
theorem evaluation_writes_innermost_frame_only (config : Config) (room : Nat) (s : State)
    (r : FrameRef) (hr : s.store.HasFrame r) :
    (∀ e : Expr,
      (finalState (e.eval (config.env room) s)).store.frame r = s.store.frame r) ∧
    (∀ target argument span,
      (finalState (callWithin config room target argument span s)).store.frame r
        = s.store.frame r) ∧
    ∀ statements : List Statement,
      (r ≠ s.scope.top →
        (finalState (Statement.execAll (config.env room) statements s)).store.frame r
          = s.store.frame r) ∧
      ∀ x ∉ Statement.targets statements,
        ((finalState (Statement.execAll (config.env room) statements s)).store.frame r).find? x
          = (s.store.frame r).find? x := by
  have henv := config.env_effect room
  refine ⟨fun e => ?_, fun target argument span => ?_, fun statements => ⟨fun hne => ?_, ?_⟩⟩
  · exact (Expr.eval_effect henv e s).frame_eq hr fun _ => rfl
  · exact (callWithin_effect config room target argument span s).frame_eq hr fun _ => rfl
  · exact (Statement.execAll_effect henv statements s).frame_eq hr fun htop => absurd htop hne
  · exact fun x hx => (Statement.execAll_effect henv statements s).find?_eq hr hx

/-- A block that defines `length` does not touch the `length` of the base frame, in which the statement
behind it defines `x`. -/
theorem length_kept_by_inner_definition :
    let null : Expr := .literal .null default
    let program : Program :=
      [.branch (.literal (.boolean true) default) (.mk [.const "length" null default] none) none
          default,
        .const "x" null default]
    State.initial.store.HasFrame ⟨0⟩ ∧
      ((finalState (Statement.execAll (Config.env default 1) program .initial)).store.frame
        ⟨0⟩).find? "length" = some (.native .length) := by
  intro null program
  have hr : State.initial.store.HasFrame ⟨0⟩ := by decide
  refine ⟨hr, ?_⟩
  have h := (evaluation_writes_innermost_frame_only default 1 .initial ⟨0⟩ hr).2.2 program
  rw [h.2 "length" (by decide)]
  rfl

/-- A program hands the scope back, also when it fails and the failure is reported. -/
lemma run_scope_eq (config : Config) (program : Program) (s : State) :
    (run config program s).2.scope = s.scope := by
  have h := (Statement.execAll_effect (config.env_effect (s.room config)) program s).scope_eq
  rw [run, execute]
  rcases hs : Statement.execAll (config.env (s.room config)) program s with ⟨⟨⟩, t⟩ | ⟨i, t⟩
  · rw [hs] at h
    exact h
  · rw [hs] at h
    cases i with
    | returned v => exact h
    | failed e => exact h

/-- **The scope is restored.** However evaluation ends, the scope afterwards is the scope before, frame
by frame; so a program run in the initial state ends in its single base frame. -/
theorem evaluation_restores_scope (config : Config) (room : Nat) (s : State) :
    (∀ e : Expr, (finalState (e.eval (config.env room) s)).scope = s.scope) ∧
    (∀ statements,
      (finalState (Statement.execAll (config.env room) statements s)).scope = s.scope) ∧
    (∀ (b : Block) bindings,
      (finalState (b.eval (config.env room) s)).scope = s.scope ∧
      (finalState (withFrame bindings (b.eval (config.env room)) s)).scope = s.scope) ∧
    (∀ target argument span,
      (finalState (call config target argument span s)).scope = s.scope) ∧
    (∀ program, (run config program s).2.scope = s.scope) ∧
    ∀ program, (run config program .initial).2.scope = ⟨[], ⟨0⟩⟩ := by
  have henv := config.env_effect room
  refine ⟨fun e => (Expr.eval_effect henv e s).scope_eq,
    fun statements => (Statement.execAll_effect henv statements s).scope_eq,
    fun b bindings => ⟨(Block.eval_effect henv b s).scope_eq, ?_⟩,
    fun target argument span => (callWithin_effect config _ target argument span s).scope_eq,
    fun program => run_scope_eq config program s,
    fun program => run_scope_eq config program .initial⟩
  have hblock : HasEffect [] (withFrame bindings (b.eval (config.env room))) :=
    (Block.eval_effect henv b).withFrame bindings
  exact (hblock s).scope_eq

end RecordLang
