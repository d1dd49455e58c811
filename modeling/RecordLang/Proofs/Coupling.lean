import RecordLang.Proofs.Coupling.Region
import RecordLang.Proofs.Errors

/-!
Two runs side by side.

The same program, or the same call, is run twice: from states that differ a little, or with other
settings. A *coupling* says what the two runs have in common all along. They are confined to a region of
the store, in which nothing is hidden; they record the same calls, on top of what each started with;
and they end alike, except that the first run may depart from the second by giving up with an error
where the second only logs some lines and goes on.

* `Error.IsOrdinary`: an error that does not depend on the settings.
* `Coupling`: what two runs have in common.
* `Coupling.Alike`, `Coupling.InStep`: states that correspond, in any scopes and in the same scope.
* `Coupling.Corresponds`: outcomes that correspond.
* `Coupled`: two actions that lead from corresponding states to corresponding outcomes.
* `Coupled.bind`, `Coupled.withFrame`, `Coupled.withScope`, `Coupled.recordingCall`: how coupled actions
  are put together.
* `Coupling.whole`, `Coupling.inStep_whole_iff`: two runs that see the whole store.
-/

namespace RecordLang

/-! ### Couplings -/

/-- The error does not depend on the settings: it is neither about a second definition nor about the
depth of calls. -/
def Error.IsOrdinary : Error → Prop
  | .fault (.redefinition _) _ => False
  | .fault (.recursionLimit _) _ => False
  | _ => True

/-- Errors about data are ordinary. -/
lemma Error.PointsInto.isOrdinary {sites : List Site} {e : Error}
    (h : e.PointsInto sites Cause.IsData) : e.IsOrdinary := by
  rcases e with ⟨cause, _ | span⟩ | d
  · exact h.elim
  · cases cause with
    | redefinition name => exact h.1
    | recursionLimit limit => exact h.1
    | _ => trivial
  · trivial

/-- What two runs have in common. -/
structure Coupling where
  /-- Frames whose bindings may differ. -/
  hidden : Set FrameRef
  /-- The part of the store that both runs are confined to. -/
  region : Region
  /-- Nothing in the region is hidden. -/
  visible : ∀ r ∈ region.frames, r ∉ hidden
  /-- The calls that are active when the first run starts. -/
  calls : List CallFrame
  /-- The calls that are active when the second run starts. -/
  calls' : List CallFrame
  /-- Errors that count as the same. -/
  same : Error → Error → Prop
  same_refl : ∀ e, e.IsOrdinary → same e e
  /-- The lines that the second run logs where the first departs with an error. -/
  departure? : Error → Option (List String)

namespace Coupling

variable (k : Coupling)

/-- The states correspond, whatever their scopes. -/
structure Alike (s t : State) : Prop where
  store : s.store.AgreesOutside k.hidden t.store
  closed : k.region.Closed s.store
  types : t.types = s.types
  console : t.console = s.console
  calls : ∃ recorded, s.calls = recorded ++ k.calls ∧ t.calls = recorded ++ k.calls'

/-- The states correspond and have the same scope, which lies in the region. -/
structure InStep (s t : State) : Prop extends k.Alike s t where
  scope : t.scope = s.scope
  hasScope : k.region.HasScope s.scope

/-- Interrupts that correspond: the same value is returned, or the errors count as the same. -/
inductive SameInterrupt : Interrupt → Interrupt → Prop where
  | returned {v : Value} : k.region.Has v → SameInterrupt (.returned v) (.returned v)
  | failed {e e' : Error} : k.same e e' → SameInterrupt (.failed e) (.failed e')

/-- Outcomes that correspond: the same result with the property `P`, interrupts that correspond, or a
departure of the first run. The states in which both runs end are related by `rel`. -/
inductive Corresponds {ε α : Type} [Interrupts ε] (rel : State → State → Prop) (P : α → Prop) :
    EStateM.Result ε State α → EStateM.Result ε State α → Prop where
  | ok {a : α} {s t : State} : P a → rel s t → Corresponds rel P (.ok a s) (.ok a t)
  | error {e e' : ε} {s t : State} :
      k.SameInterrupt (Interrupts.toInterrupt e) (Interrupts.toInterrupt e') → rel s t →
      Corresponds rel P (.error e s) (.error e' t)
  /-- After a departure nothing is said about the second run but that it logs the lines. -/
  | departed {e : ε} {s : State} {r : EStateM.Result ε State α} {e₀ : Error} {lines : List String} :
      Interrupts.toInterrupt e = .failed e₀ → k.departure? e₀ = some lines →
      s.console.lines.toList ++ lines <+: (finalState r).console.lines.toList →
      Corresponds rel P (.error e s) r

end Coupling

/-- How an action ends, without the state in which it does. -/
def ending {ε α : Type} : EStateM.Result ε State α → Except ε α
  | .ok a _ => .ok a
  | .error e _ => .error e

/-- Actions that lead from related states to outcomes that correspond. -/
def Coupled {ε α : Type} [Interrupts ε] (k : Coupling) (rel : State → State → Prop) (P : α → Prop)
    (x y : EStateM ε State α) : Prop :=
  ∀ s t, rel s t → k.Corresponds rel P (x s) (y t)

/-- However the action ends, it has only added lines to the console. -/
def AddsLines {ε α : Type} (x : EStateM ε State α) : Prop :=
  ∀ s, s.console.lines.toList <+: (finalState (x s)).console.lines.toList

lemma HasEffect.addsLines {ε α : Type} [Interrupts ε] {names : List String} {x : EStateM ε State α}
    (h : HasEffect names x) : AddsLines x :=
  fun s => Effect.lines_prefix (h s)

/-! ### How coupled actions are put together -/

section

variable {k : Coupling} {rel : State → State → Prop} {ε α β : Type} [Interrupts ε] {P : α → Prop}
  {Q : β → Prop}

lemma coupled_pure {a : α} (ha : P a) : Coupled k rel P (pure a : EStateM ε State α) (pure a) :=
  fun _ _ hst => .ok ha hst

lemma coupled_throw {e e' : ε}
    (h : k.SameInterrupt (Interrupts.toInterrupt e) (Interrupts.toInterrupt e')) :
    Coupled k rel P (throw e : EStateM ε State α) (throw e') :=
  fun _ _ hst => .error h hst

/-- A change that keeps the states related. -/
lemma coupled_modify {f g : State → State} (h : ∀ s t, rel s t → rel (f s) (g t)) :
    Coupled k rel (fun _ => True) (modify f : EStateM ε State Unit) (modify g) :=
  fun s t hst => .ok trivial (h s t hst)

/-- One action behind another. What the second run does after a departure only adds lines. -/
lemma Coupled.bind {x y : EStateM ε State α} {f g : α → EStateM ε State β}
    (hx : Coupled k rel P x y) (hf : ∀ a, P a → Coupled k rel Q (f a) (g a))
    (hg : ∀ a, AddsLines (g a)) : Coupled k rel Q (x >>= f) (y >>= g) := by
  intro s t hst
  have h := hx s t hst
  rw [bind_apply, bind_apply]
  generalize x s = r at h ⊢
  generalize y t = r' at h ⊢
  cases h with
  | ok ha hst' => exact hf _ ha _ _ hst'
  | error hi hst' => exact .error hi hst'
  | departed he hlines hprefix =>
      refine .departed he hlines ?_
      cases r' with
      | ok a u => exact hprefix.trans (hg a u)
      | error e u => exact hprefix

/-- An action whose result is only turned into another. -/
lemma Coupled.bindPure {x y : EStateM ε State α} {f : α → β} (h : Coupled k rel P x y)
    (hf : ∀ a, P a → Q (f a)) :
    Coupled k rel Q (x >>= fun a => pure (f a)) (y >>= fun a => pure (f a)) :=
  h.bind (fun a ha => coupled_pure (hf a ha)) fun _ _ => List.prefix_rfl

lemma Coupled.discard {x y : EStateM ε State α} (h : Coupled k rel P x y) :
    Coupled k rel (fun _ => True) (Functor.discard x) (Functor.discard y) :=
  h.bindPure fun _ _ => trivial

end

section

variable {k : Coupling} {rel : State → State → Prop} {α : Type} {P : α → Prop}

/-- An ordinary error is the same in both runs. -/
lemma coupled_fault {e : Error} (he : e.IsOrdinary) : Coupled k rel P (throw e : Run α) (throw e) :=
  coupled_throw (.failed (k.same_refl e he))

/-- Host actions that are coupled are coupled as parts of evaluation. -/
lemma Coupled.lift {x y : Run α} (h : Coupled k rel P x y) :
    Coupled k rel P (liftM x : Eval α) (liftM y) := by
  intro s t hst
  have hst' := h s t hst
  rw [lift_apply, lift_apply]
  generalize x s = r at hst' ⊢
  generalize y t = r' at hst' ⊢
  cases hst' with
  | ok ha hst' => exact .ok ha hst'
  | error hi hst' => exact .error hi hst'
  | departed he hlines hprefix =>
      refine .departed he hlines ?_
      cases r' <;> exact hprefix

/-- A pure computation, the same in both runs. -/
lemma coupled_except {sites : List Site} {x : Except Error α} (hx : Blames sites x)
    (hP : ∀ a, x = .ok a → P a) : Coupled k rel P (liftM x : Run α) (liftM x) := by
  cases x with
  | ok a => exact coupled_pure (hP a rfl)
  | error e => exact coupled_fault (hx e rfl).isOrdinary

/-- A pure computation on the state that gives the same in related states. -/
lemma coupled_read {sites : List Site} {f : State → Except Error α} (hf : ∀ s, Blames sites (f s))
    (heq : ∀ s t, rel s t → f t = f s) (hP : ∀ s t a, rel s t → f s = .ok a → P a) :
    Coupled k rel P (get >>= fun s => (liftM (f s) : Run α)) (get >>= fun s => liftM (f s)) := by
  intro s t hst
  rw [get_bind_apply, get_bind_apply, heq s t hst]
  exact coupled_except (hf s) (fun a ha => hP s t a hst ha) s t hst

/-- The same as a part of evaluation. -/
lemma coupled_evalRead {sites : List Site} {f : State → Except Error α} (hf : ∀ s, Blames sites (f s))
    (heq : ∀ s t, rel s t → f t = f s) (hP : ∀ s t a, rel s t → f s = .ok a → P a) :
    Coupled k rel P (get >>= fun s => (liftM (f s) : Eval α)) (get >>= fun s => liftM (f s)) :=
  (coupled_read hf heq hP).lift

/-- A pure computation in front of an action: the rest starts in the same states. -/
lemma coupled_except_bind {β : Type} {Q : β → Prop} {sites : List Site} {x : Except Error α}
    {f g : α → Run β} (hx : Blames sites x) (h : ∀ a, x = .ok a → Coupled k rel Q (f a) (g a)) :
    Coupled k rel Q ((liftM x : Run α) >>= f) ((liftM x : Run α) >>= g) := by
  cases x with
  | ok a => exact h a rfl
  | error e => exact coupled_fault (hx e rfl).isOrdinary

/-- The same in front of a part of evaluation. -/
lemma coupled_liftExcept_bind {β : Type} {Q : β → Prop} {sites : List Site} {x : Except Error α}
    {f g : α → Eval β} (hx : Blames sites x) (h : ∀ a, x = .ok a → Coupled k rel Q (f a) (g a)) :
    Coupled k rel Q ((liftM x : Eval α) >>= f) ((liftM x : Eval α) >>= g) := by
  cases x with
  | ok a => exact h a rfl
  | error e => exact coupled_throw (.failed (k.same_refl e (hx e rfl).isOrdinary))

variable {x y : Eval Value}

/-- A call and the end of a program take the value of a `return` in both runs. -/
lemma Coupled.settle (h : Coupled k rel k.region.Has x y) :
    Coupled k rel k.region.Has (settle x) (settle y) := by
  intro s t hst
  have hst' := h s t hst
  rw [settle_apply, settle_apply]
  generalize x s = r at hst' ⊢
  generalize y t = r' at hst' ⊢
  cases hst' with
  | ok hv hst' => exact .ok hv hst'
  | @error i i' u u' hi hst' =>
      obtain hv | hsame := hi
      · exact .ok hv hst'
      · exact .error (.failed hsame) hst'
  | @departed i u _ e lines he hlines hprefix =>
      obtain rfl : i = .failed e := he
      refine .departed rfl hlines ?_
      rcases r' with ⟨v, u'⟩ | ⟨v | e', u'⟩ <;> exact hprefix

end

/-! ### Frames, scopes and calls -/

namespace Coupling

variable {k : Coupling} {s t : State}

lemma Alike.setScope (h : k.Alike s t) (scope scope' : Scope) :
    k.Alike { s with scope } { t with scope := scope' } :=
  ⟨h.store, h.closed, h.types, h.console, h.calls⟩

/-- Where both runs enter a scope of the region, they are in step. -/
lemma Alike.inStep (h : k.Alike s t) {scope : Scope} (hscope : k.region.HasScope scope) :
    k.InStep { s with scope } { t with scope } :=
  ⟨h.setScope scope scope, rfl, hscope⟩

/-- One more call is recorded in both runs. -/
lemma Alike.calling (h : k.Alike s t) (c : CallFrame) :
    k.Alike { s with calls := c :: s.calls } { t with calls := c :: t.calls } := by
  obtain ⟨recorded, hs, ht⟩ := h.calls
  refine ⟨h.store, h.closed, h.types, h.console, c :: recorded, ?_, ?_⟩
  · rw [hs, List.cons_append]
  · rw [ht, List.cons_append]

/-- The calls that were active earlier are put back in both runs. -/
lemma Alike.restoreCalls {u u' : State} (h : k.Alike u u') (hst : k.Alike s t) :
    k.Alike { u with calls := s.calls } { u' with calls := t.calls } :=
  ⟨h.store, h.closed, h.types, h.console, hst.calls⟩

/-- Both runs enter a frame with the same bindings. -/
lemma InStep.enterFrame (h : k.InStep s t) {bindings : Frame} (hb : k.region.HasTable bindings) :
    k.InStep (s.enterFrame bindings) (t.enterFrame bindings) := by
  refine ⟨⟨h.store.newFrame bindings, h.closed.newFrame hb, h.types, h.console, h.calls⟩, ?_, ?_⟩
  · simp only [State.enterFrame, Store.newFrame, h.scope, h.store.size_frames]
  · exact Region.hasScope_push h.hasScope (h.closed.newFrame_mem _ le_rfl)

/-- The scope in which both runs were in step is put back. -/
lemma InStep.restoreScope {u u' : State} (h : k.Alike u u') (hst : k.InStep s t) :
    k.InStep { u with scope := s.scope } { u' with scope := t.scope } :=
  ⟨h.setScope _ _, hst.scope, hst.hasScope⟩

end Coupling

section

variable {k : Coupling} {α : Type} {P : α → Prop}

/-- When both runs have ended, each enters another scope. -/
lemma Coupling.Corresponds.setScope {rel rel' : State → State → Prop} {scope scope' : Scope}
    {r r' : EStateM.Result Interrupt State α}
    (hrel : ∀ u u', rel u u' → rel' { u with scope } { u' with scope := scope' }) :
    k.Corresponds rel P r r' →
      k.Corresponds rel' P
        (match r with
          | .ok a u => .ok a { u with scope }
          | .error i u => .error i { u with scope })
        (match r' with
          | .ok a u => .ok a { u with scope := scope' }
          | .error i u => .error i { u with scope := scope' }) := by
  intro h
  cases h with
  | ok ha hst => exact .ok ha (hrel _ _ hst)
  | error hi hst => exact .error hi (hrel _ _ hst)
  | departed he hlines hprefix =>
      refine .departed he hlines ?_
      cases r' <;> exact hprefix

/-- A frame of its own with the same bindings in both runs. -/
lemma Coupled.withFrame {names names' : List String} {x y : Eval α} {bindings : Frame}
    (h : Coupled k k.InStep P x y) (hb : k.region.HasTable bindings) (hx : HasEffect names x)
    (hy : HasEffect names' y) : Coupled k k.InStep P (withFrame bindings x) (withFrame bindings y) := by
  intro s t hst
  rw [withFrame_apply hx, withFrame_apply hy]
  exact .setScope (fun _ _ hu => hst.restoreScope hu.toAlike) (h _ _ (hst.enterFrame hb))

/-- Another scope, the same in both runs and in the region. The scopes outside may differ. -/
lemma Coupled.withScope {x y : Eval α} {scope : Scope} (h : Coupled k k.InStep P x y)
    (hscope : k.region.HasScope scope) :
    Coupled k k.Alike P (withScope scope x) (withScope scope y) := by
  intro s t hst
  rw [withScope_apply, withScope_apply]
  exact .setScope (fun _ _ hu => hu.toAlike.setScope _ _) (h _ _ (hst.inStep hscope))

lemma Coupled.recordingCall {x y : Run Value} (h : Coupled k k.Alike k.region.Has x y)
    (hx : HasEffect [] x) (hy : HasEffect [] y) (callee : String) (span : Span) :
    Coupled k k.Alike k.region.Has (recordingCall callee span x) (recordingCall callee span y) := by
  intro s t hst
  have hinner := h _ _ (hst.calling ⟨callee, some span⟩)
  rw [recordingCall_apply hx, recordingCall_apply hy]
  generalize x { s with calls := ⟨callee, some span⟩ :: s.calls } = r at hinner ⊢
  generalize y { t with calls := ⟨callee, some span⟩ :: t.calls } = r' at hinner ⊢
  cases hinner with
  | ok hv hst' => exact .ok hv (hst'.restoreCalls hst)
  | error hi hst' => exact .error hi hst'
  | departed he hlines hprefix =>
      refine .departed he hlines ?_
      cases r' <;> exact hprefix

/-- Actions that put the scope back keep runs in step. -/
lemma Coupled.inStep {names names' : List String} {x y : Run α} (h : Coupled k k.Alike P x y)
    (hx : HasEffect names x) (hy : HasEffect names' y) : Coupled k k.InStep P x y := by
  intro s t hst
  have hs := (hx s).scope_eq
  have ht := (hy t).scope_eq
  have hst' := h s t hst.toAlike
  have hscope : ∀ {u u' : State}, k.Alike u u' → u.scope = s.scope → u'.scope = t.scope →
      k.InStep u u' := by
    intro u u' halike hu hu'
    exact ⟨halike, by rw [hu, hu', hst.scope], by rw [hu]; exact hst.hasScope⟩
  generalize x s = r at hst' hs ⊢
  generalize y t = r' at hst' ht ⊢
  cases hst' with
  | ok ha hst' => exact .ok ha (hscope hst' hs ht)
  | error hi hst' => exact .error hi (hscope hst' hs ht)
  | departed he hlines hprefix => exact .departed he hlines hprefix

end

/-! ### Runs on the whole store -/

namespace Coupling

/-- Two runs that see the whole store and differ in the calls that are active. -/
def whole (calls calls' : List CallFrame) (same : Error → Error → Prop)
    (same_refl : ∀ e, e.IsOrdinary → same e e) (departure? : Error → Option (List String)) :
    Coupling where
  hidden := ∅
  region := .all
  visible := fun _ _ => Set.notMem_empty _
  calls
  calls'
  same
  same_refl
  departure?

/-- Such runs are in step where the states agree but for the calls that were active at the start. -/
lemma inStep_whole_iff {calls calls' : List CallFrame} {same : Error → Error → Prop}
    {same_refl : ∀ e, e.IsOrdinary → same e e} {departure? : Error → Option (List String)}
    {s t : State} :
    (whole calls calls' same same_refl departure?).InStep s t ↔
      ∃ recorded, s.calls = recorded ++ calls ∧ t = { s with calls := recorded ++ calls' } := by
  constructor
  · rintro ⟨⟨hstore, -, htypes, hconsole, recorded, hcalls, hcalls'⟩, hscope, -⟩
    refine ⟨recorded, hcalls, ?_⟩
    obtain ⟨store, scope, types, active, console⟩ := t
    simp only [State.mk.injEq]
    exact ⟨hstore.eq, hscope, htypes, hcalls', hconsole⟩
  · rintro ⟨recorded, hcalls, rfl⟩
    exact ⟨⟨.refl _ _, Region.closed_all _, rfl, rfl, recorded, hcalls, rfl⟩, rfl,
      fun _ _ => Set.mem_univ _⟩

end Coupling

end RecordLang
