import RecordLang.Proofs.Coupling.Reading
import RecordLang.Proofs.Pieces

/-!
States that evaluation cannot tell apart.

A *likeness* relates states that are the same but for what frames bind, and says which values may come
up in them, which text may be evaluated and what may be pushed to lists. It is lawful if related states
agree on the names that allowed text mentions, and if each step of evaluation leads from related states
to related ones. Then the same text, evaluated in both, ends in the same way. A relation of states to
themselves is an invariant of evaluation, so the same laws serve for both. This module holds the rules
for actions; that they add up to evaluation is shown elsewhere.

* `State.Twin`: states that are the same but for what frames bind.
* `Likeness`, `Likeness.Lawful`: a likeness, and what makes it lawful.
* `Likeness.Agree`: two outcomes that agree, with a condition on the result.
* `Likeness.Agree.bind`, `Likeness.Lawful.agree_withFrame`, `Likeness.Lawful.agree_withScope`,
  `Likeness.Lawful.agree_invoke`: how actions are put together.
* `Likeness.Lawful.agree_define`, `Likeness.Lawful.agree_choose`, `Likeness.Lawful.agree_native` and
  others: the steps.
-/

namespace RecordLang

/-! ### Likenesses -/

/-- The states are the same but for what frames bind. -/
structure State.Twin (s s' : State) : Prop where
  scope : s'.scope = s.scope
  types : s'.types = s.types
  calls : s'.calls = s.calls
  console : s'.console = s.console
  containers : s.store.SameContainers s'.store
  nextId : s'.store.nextId = s.store.nextId
  size_frames : s'.store.frames.size = s.store.frames.size

lemma State.Twin.refl (s : State) : s.Twin s :=
  ⟨rfl, rfl, rfl, rfl, ⟨rfl, rfl⟩, rfl, rfl⟩

/-- Which states are alike, and which values, which text and which pushes may come up. Where two states
are alike, values are judged in the store of the first. -/
structure Likeness where
  like : State → State → Prop
  value : Store → Value → Prop
  text : Task → Prop
  push : Store → ListRef → Value → Prop

/-- What follows from what is allowed is allowed, and steps lead from states that are alike to states
that are alike. -/
structure Likeness.Lawful (L : Likeness) : Prop where
  twin {s s' : State} : L.like s s' → s.Twin s'
  names {s s' : State} {task : Task} {x : String} : L.like s s' → L.text task → x ∈ task.names →
    s'.lookup x = s.lookup x ∧ s'.inTop x = s.inTop x
  part {task part : Task} : L.text task → task.Part part → L.text part
  inner {task : Task} {body : Block} : L.text task → task.Inner body → L.text (.block body)
  body {st : Store} {v : Value} {body : Block} : L.value st v → body ∈ v.bodies →
    L.text (.block body)
  atom {st : Store} {v : Value} : v.isAtom = true → L.value st v
  type (st : Store) (entry : TypeEntry) : L.value st entry.toValue
  object {st : Store} {c : Class} {r : RecordRef} :
    L.value st (.object c r) ↔ L.value st (.record r)
  closure {s s' : State} {task : Task} {v : Value} : L.like s s' → L.text task →
    v.scope? = some s.scope → (∀ body ∈ v.bodies, task.Body body) → L.value s.store v
  value_congr {st st' : Store} {v : Value} : st.SameContainers st' → L.value st v → L.value st' v
  found {s s' : State} {x : String} {v : Value} : L.like s s' → s.lookup x = some v →
    L.value s.store v
  item {s s' : State} {r : ListRef} {v : Value} : L.like s s' → L.value s.store (.list r) →
    v ∈ s.store.list r → L.value s.store v
  field {s s' : State} {r : RecordRef} {x : String} {v : Value} : L.like s s' →
    L.value s.store (.record r) → (s.store.record r).find? x = some v → L.value s.store v
  calls {s s' : State} (calls : List CallFrame) : L.like s s' → L.like { s with calls } { s' with calls }
  console {s s' : State} (console : Console) : L.like s s' →
    L.like { s with console } { s' with console }
  nextId {s s' : State} (n : Nat) : L.like s s' →
    L.like { s with store := { s.store with nextId := n } }
      { s' with store := { s'.store with nextId := n } }
  capture {s s' : State} {v : Value} {scope : Scope} : L.like s s' → L.value s.store v →
    v.scope? = some scope → L.like { s with scope } { s' with scope }
  restore {s s' t t' : State} : L.like s s' → L.like t t' →
    L.like { t with scope := s.scope } { t' with scope := s'.scope }
  frame {s s' : State} {bindings : Frame} : L.like s s' →
    (∀ x v, bindings.find? x = some v → L.value s.store v) →
    L.like (s.enterFrame bindings) (s'.enterFrame bindings)
  bind {s s' : State} {task : Task} {x : String} {v : Value} : L.like s s' → L.text task →
    x ∈ task.names → L.value s.store v → L.like (s.bindTop x v) (s'.bindTop x v)
  register {s s' : State} {st : Statement} {name : String} (entry : TypeEntry) : L.like s s' →
    L.text (.statement st) → st.typeName? = some name →
    L.like { s with types := s.types.insert name entry }
      { s' with types := s'.types.insert name entry }
  list {s s' : State} {items : Array Value} : L.like s s' → (∀ v ∈ items, L.value s.store v) →
    L.like { s with store := (s.store.newList items).2 }
      { s' with store := (s'.store.newList items).2 } ∧
    (∀ v, L.value s.store v → L.value (s.store.newList items).2 v) ∧
    L.value (s.store.newList items).2 (.list (s.store.newList items).1)
  record {s s' : State} {fields : Table Value} : L.like s s' →
    (∀ x v, fields.find? x = some v → L.value s.store v) →
    L.like { s with store := (s.store.newRecord fields).2 }
      { s' with store := (s'.store.newRecord fields).2 } ∧
    (∀ v, L.value s.store v → L.value (s.store.newRecord fields).2 v) ∧
    L.value (s.store.newRecord fields).2 (.record (s.store.newRecord fields).1)
  append {s s' : State} {r : ListRef} {item : Value} : L.like s s' → L.value s.store (.list r) →
    L.value s.store item → L.push s.store r item →
    L.like { s with store := s.store.append r item } { s' with store := s'.store.append r item } ∧
    ∀ v, L.value s.store v → L.value (s.store.append r item) v

namespace Likeness

/-- A task that may be done: with allowed text, or with allowed values. -/
def Allows (L : Likeness) (st : Store) : Task → Prop
  | .call target argument _ => L.value st target ∧ L.value st argument
  | task => L.text task

/-- What evaluation from a state `s₀` leads to: states that are alike, in the scope of `s₀`, in which
values that were allowed still are. -/
structure After (L : Likeness) (s₀ t t' : State) : Prop where
  like : L.like t t'
  scope : t.scope = s₀.scope
  value : ∀ v, L.value s₀.store v → L.value t.store v

/-- Outcomes that agree: the same result, with the property `P`, or the same interrupt, in states that
are alike. A value that is returned is allowed. -/
inductive Agree {ε α : Type} [Interrupts ε] (L : Likeness) (s₀ : State) (P : Store → α → Prop) :
    EStateM.Result ε State α → EStateM.Result ε State α → Prop where
  | ok {a : α} {t t' : State} : L.After s₀ t t' → P t.store a → Agree L s₀ P (.ok a t) (.ok a t')
  | error {e : ε} {t t' : State} : L.After s₀ t t' →
      (∀ v, Interrupts.toInterrupt e = .returned v → L.value t.store v) →
      Agree L s₀ P (.error e t) (.error e t')

/-- Nothing is asked of the result. -/
def Any {α : Type} (_ : Store) (_ : α) : Prop :=
  True

section

variable {L : Likeness} {s s' t t' u u' : State}

lemma After.refl (hst : L.like s s') : L.After s s s' :=
  ⟨hst, rfl, fun _ hv => hv⟩

lemma After.trans (h : L.After s t t') (h' : L.After t u u') : L.After s u u' :=
  ⟨h'.like, h'.scope.trans h.scope, fun v hv => h'.value v (h.value v hv)⟩

/-- A step that leaves lists and records alone. -/
lemma Lawful.after (hL : L.Lawful) (hlike : L.like t t') (hscope : t.scope = s.scope)
    (hcontainers : s.store.SameContainers t.store) : L.After s t t' :=
  ⟨hlike, hscope, fun _ hv => hL.value_congr hcontainers hv⟩

end

/-! ### How actions are put together -/

section

variable {L : Likeness} {s s' : State} {ε α β : Type} [Interrupts ε] {P : Store → α → Prop}
  {Q : Store → β → Prop}

lemma agree_pure (hst : L.like s s') {a : α} (ha : P s.store a) :
    L.Agree s P ((pure a : EStateM ε State α) s) ((pure a : EStateM ε State α) s') :=
  .ok (.refl hst) ha

/-- Outcomes that agree from a later state on agree from an earlier one on. -/
lemma Agree.after {t t' : State} {r r' : EStateM.Result ε State α} (h : L.Agree t P r r')
    (hafter : L.After s t t') : L.Agree s P r r' := by
  cases h with
  | ok h ha => exact .ok (hafter.trans h) ha
  | error h hreturned => exact .error (hafter.trans h) hreturned

/-- The second action starts where the first one led. -/
lemma Agree.bind {x : EStateM ε State α} {f : α → EStateM ε State β} (hx : L.Agree s P (x s) (x s'))
    (hf : ∀ a t t', L.After s t t' → P t.store a → L.Agree t Q (f a t) (f a t')) :
    L.Agree s Q ((x >>= f) s) ((x >>= f) s') := by
  rw [bind_apply, bind_apply]
  generalize x s = r at hx ⊢
  generalize x s' = r' at hx ⊢
  cases hx with
  | ok hafter ha => exact (hf _ _ _ hafter ha).after hafter
  | error hafter hreturned => exact .error hafter hreturned

lemma Agree.discard {x : EStateM ε State α} (hx : L.Agree s P (x s) (x s')) :
    L.Agree s Any (Functor.discard x s) (Functor.discard x s') := by
  rw [discard_apply, discard_apply]
  generalize x s = r at hx ⊢
  generalize x s' = r' at hx ⊢
  cases hx with
  | ok hafter _ => exact .ok hafter trivial
  | error hafter hreturned => exact .error hafter hreturned

/-- All results have the property that each of them has and keeps. -/
lemma agree_mapM {γ : Type} {f : γ → EStateM ε State Value} {cs : List γ} (hst : L.like s s')
    (h : ∀ c ∈ cs, ∀ t t', L.like t t' → L.Agree t L.value (f c t) (f c t')) :
    L.Agree s (fun st vs => ∀ v ∈ vs, L.value st v) (cs.mapM f s) (cs.mapM f s') := by
  induction cs generalizing s s' with
  | nil =>
      rw [List.mapM_nil]
      exact agree_pure hst (by simp)
  | cons c rest ih =>
      obtain ⟨hc, hrest⟩ := List.forall_mem_cons.mp h
      rw [List.mapM_cons]
      refine (hc s s' hst).bind fun v t t' ht hv => ?_
      refine (ih ht.like hrest).bind fun vs u u' hu hvs => agree_pure hu.like ?_
      exact List.forall_mem_cons.mpr ⟨hu.value v hv, hvs⟩

lemma agree_forM {γ : Type} {f : γ → EStateM ε State PUnit} {cs : List γ} (hst : L.like s s')
    (h : ∀ c ∈ cs, ∀ t t', L.like t t' → L.Agree t Any (f c t) (f c t')) :
    L.Agree s Any (cs.forM f s) (cs.forM f s') := by
  induction cs generalizing s s' with
  | nil => exact agree_pure hst trivial
  | cons c rest ih =>
      obtain ⟨hc, hrest⟩ := List.forall_mem_cons.mp h
      exact (hc s s' hst).bind fun _ t t' ht _ => ih ht.like hrest

end

section

variable {L : Likeness} {s s' : State} {α β : Type} {P : Store → α → Prop} {Q : Store → β → Prop}

/-- An error leaves the states as they are. -/
lemma agree_failed (hst : L.like s s') (e : Error) :
    L.Agree s P (.error e s : EStateM.Result Error State α) (.error e s') := by
  refine .error (.refl hst) ?_
  rintro v ⟨⟩

lemma Agree.lift {x : Run α} (hx : L.Agree s P (x s) (x s')) :
    L.Agree s P ((liftM x : Eval α) s) ((liftM x : Eval α) s') := by
  rw [lift_apply, lift_apply]
  generalize x s = r at hx ⊢
  generalize x s' = r' at hx ⊢
  cases hx with
  | ok hafter ha => exact .ok hafter ha
  | error hafter _ =>
      refine .error hafter ?_
      rintro v ⟨⟩

/-- A pure computation. -/
lemma agree_except (hst : L.like s s') {x : Except Error α} (h : ∀ a, x = .ok a → P s.store a) :
    L.Agree s P ((liftM x : Run α) s) ((liftM x : Run α) s') := by
  cases x with
  | ok a => exact agree_pure hst (h a rfl)
  | error e => exact agree_failed hst e

/-- A pure computation in front: the rest starts in the same states. -/
lemma agree_except_bind (hst : L.like s s') {x : Except Error α} {f : α → Run β}
    (hf : ∀ a, x = .ok a → L.Agree s Q (f a s) (f a s')) :
    L.Agree s Q (((liftM x : Run α) >>= f) s) (((liftM x : Run α) >>= f) s') := by
  cases x with
  | ok a => exact hf a rfl
  | error e => exact agree_failed hst e

/-- A pure computation that looks at the state and finds the same in both. -/
lemma agree_read (hst : L.like s s') {f : State → Except Error α} (heq : f s' = f s)
    (h : ∀ a, f s = .ok a → P s.store a) :
    L.Agree s P ((get >>= fun s => (liftM (f s) : Run α)) s)
      ((get >>= fun s => (liftM (f s) : Run α)) s') := by
  rw [get_bind_apply, get_bind_apply, heq]
  exact agree_except hst h

lemma Agree.settle {x : Eval Value} (hx : L.Agree s L.value (x s) (x s')) :
    L.Agree s L.value (RecordLang.settle x s) (RecordLang.settle x s') := by
  rw [settle_apply, settle_apply]
  generalize x s = r at hx ⊢
  generalize x s' = r' at hx ⊢
  cases hx with
  | ok hafter hv => exact .ok hafter hv
  | @error i t t' hafter hreturned =>
      cases i with
      | returned v => exact .ok hafter (hreturned v rfl)
      | failed e =>
          refine .error hafter ?_
          rintro v ⟨⟩

/-- The scope that was current before is put back when both actions have ended. -/
lemma Lawful.agree_restore (hL : L.Lawful) (hst : L.like s s') (s₀ : State)
    (hvalue : ∀ v, L.value s.store v → L.value s₀.store v)
    {r r' : EStateM.Result Interrupt State α} :
    L.Agree s₀ P r r' →
      L.Agree s P
        (match r with
          | .ok a t => .ok a { t with scope := s.scope }
          | .error i t => .error i { t with scope := s.scope })
        (match r' with
          | .ok a t => .ok a { t with scope := s'.scope }
          | .error i t => .error i { t with scope := s'.scope }) := by
  intro h
  cases h with
  | ok hafter ha =>
      exact .ok ⟨hL.restore hst hafter.like, rfl, fun v hv => hafter.value v (hvalue v hv)⟩ ha
  | error hafter hreturned =>
      exact .error ⟨hL.restore hst hafter.like, rfl, fun v hv => hafter.value v (hvalue v hv)⟩ hreturned

/-- A frame of its own with the same bindings in both states. It is left again, since what runs in it
puts back the scope in which it started. -/
lemma Lawful.agree_withFrame (hL : L.Lawful) (hst : L.like s s') {bindings : Frame}
    (hbindings : ∀ x v, bindings.find? x = some v → L.value s.store v) {x : Eval α}
    (hx : L.like (s.enterFrame bindings) (s'.enterFrame bindings) →
      L.Agree (s.enterFrame bindings) P (x (s.enterFrame bindings)) (x (s'.enterFrame bindings))) :
    L.Agree s P (withFrame bindings x s) (withFrame bindings x s') := by
  have hinner := hL.frame hst hbindings
  have hagree := hx hinner
  have hscope := (hL.twin hinner).scope
  have hleave : ∀ {s₀ : State} {r : EStateM.Result Interrupt State α},
      (finalState r).scope = (s₀.enterFrame bindings).scope → x (s₀.enterFrame bindings) = r →
      withFrame bindings x s₀ =
        match r with
        | .ok a t => .ok a { t with scope := s₀.scope }
        | .error i t => .error i { t with scope := s₀.scope } := by
    intro s₀ r hscope hr
    simp only [withFrame, hr]
    cases r with
    | ok a t | error i t =>
        have hleft : leaveFrame t = .ok () { t with scope := s₀.scope } := leaveFrame_eq hscope
        simp only [hleft]
  have hends : (finalState (x (s.enterFrame bindings))).scope = (s.enterFrame bindings).scope ∧
      (finalState (x (s'.enterFrame bindings))).scope = (s'.enterFrame bindings).scope := by
    generalize x (s.enterFrame bindings) = r at hagree
    generalize x (s'.enterFrame bindings) = r' at hagree
    cases hagree with
    | ok hafter _ | error hafter _ =>
        refine ⟨hafter.scope, ?_⟩
        rw [finalState, (hL.twin hafter.like).scope, hafter.scope, hscope]
  have hcontainers : s.store.SameContainers (s.enterFrame bindings).store := ⟨rfl, rfl⟩
  rw [hleave hends.1 rfl, hleave hends.2 rfl]
  exact hL.agree_restore hst _ (fun v hv => hL.value_congr hcontainers hv) hagree

/-- The scope that a function has captured. -/
lemma Lawful.agree_withScope (hL : L.Lawful) (hst : L.like s s') {v : Value} {scope : Scope}
    (hv : L.value s.store v) (hscope : v.scope? = some scope) {x : Eval α}
    (hx : L.like { s with scope } { s' with scope } →
      L.Agree { s with scope } P (x { s with scope }) (x { s' with scope })) :
    L.Agree s P (withScope scope x s) (withScope scope x s') := by
  rw [withScope_apply, withScope_apply]
  exact hL.agree_restore hst { s with scope } (fun _ hv => hv) (hx (hL.capture hst hv hscope))

end

/-! ### Steps -/

namespace Lawful

variable {L : Likeness} {s s' : State}

/-! #### Calls -/

lemma calling (hL : L.Lawful) (hst : L.like s s') (c : CallFrame) :
    L.like (s.calling c) (s'.calling c) := by
  have hlike := hL.calls (c :: s.calls) hst
  rw [State.calling, State.calling, (hL.twin hst).calls]
  exact hlike

lemma agree_popCall (hL : L.Lawful) (hst : L.like s s') : L.Agree s Any (popCall s) (popCall s') := by
  have hcalls := (hL.twin hst).calls
  rw [popCall, get_bind_apply, get_bind_apply, hcalls]
  cases s.calls with
  | nil => exact agree_failed hst _
  | cons c rest => exact .ok (hL.after (hL.calls rest hst) rfl ⟨rfl, rfl⟩) trivial

/-- A recorded call; its body starts with the call on top. -/
lemma agree_invoke (hL : L.Lawful) (hst : L.like s s') {config : Config} {callee : String} {span : Span}
    {body : Eval Value}
    (hbody : s.calls.length < config.maxCallDepth →
      L.like (s.calling ⟨callee, some span⟩) (s'.calling ⟨callee, some span⟩) →
      L.Agree (s.calling ⟨callee, some span⟩) L.value (body (s.calling ⟨callee, some span⟩))
        (body (s'.calling ⟨callee, some span⟩))) :
    L.Agree s L.value (invoke config callee span body s) (invoke config callee span body s') := by
  by_cases hroom : s.calls.length < config.maxCallDepth
  · have hcalling := hL.calling hst ⟨callee, some span⟩
    have hpushed : ∀ s₀ : State, s₀.calls = s.calls → invoke config callee span body s₀ =
        ((do
          let v ← settle body
          discard popCall
          return v : Eval Value) (s₀.calling ⟨callee, some span⟩)) := by
      intro s₀ hs₀
      rw [invoke, bind_apply, lift_apply, pushCall, get_bind_apply, hs₀, if_pos hroom]
      rfl
    rw [hpushed s rfl, hpushed s' (hL.twin hst).calls]
    refine Agree.after ?_ (hL.after (s := s) hcalling rfl ⟨rfl, rfl⟩)
    refine (hbody hroom hcalling).settle.lift.bind fun v t t' ht hv => ?_
    refine (hL.agree_popCall ht.like).lift.discard.bind fun _ u u' hu _ => ?_
    exact agree_pure hu.like (hu.value v hv)
  · have hfull : ∀ s₀ : State, s₀.calls = s.calls → invoke config callee span body s₀ =
        .error (.failed (.fault (.recursionLimit config.maxCallDepth) (some span))) s₀ := by
      intro s₀ hs₀
      rw [invoke, bind_apply, lift_apply, pushCall, get_bind_apply, hs₀, if_neg hroom]
      rfl
    rw [hfull s rfl, hfull s' (hL.twin hst).calls]
    refine .error (.refl hst) ?_
    rintro v ⟨⟩

/-! #### Names -/

section

variable {task : Task} {name : String}

lemma agree_getName (hL : L.Lawful) (hst : L.like s s') (htask : L.text task) (hname : name ∈ task.names)
    (span : Option Span) : L.Agree s L.value (getName name span s) (getName name span s') := by
  rw [getName, get_bind_apply, get_bind_apply, (hL.names hst htask hname).1]
  cases hv : s.lookup name with
  | some v => exact .ok (.refl hst) (hL.found hst hv)
  | none => exact agree_failed hst _

lemma after_bindTop (hL : L.Lawful) (hst : L.like s s') (htask : L.text task)
    (hname : name ∈ task.names) {v : Value} (hv : L.value s.store v) :
    L.After s (s.bindTop name v) (s'.bindTop name v) :=
  hL.after (hL.bind hst htask hname hv) rfl ⟨rfl, rfl⟩

lemma agree_assign (hL : L.Lawful) (hst : L.like s s') (htask : L.text task) (hname : name ∈ task.names)
    {v : Value} (hv : L.value s.store v) (span : Option Span) :
    L.Agree s Any (assign name v span s) (assign name v span s') := by
  rw [assign, get_bind_apply, get_bind_apply, (hL.names hst htask hname).1]
  split
  · exact .ok (hL.after_bindTop hst htask hname hv) trivial
  · exact agree_failed hst _

lemma after_log (hL : L.Lawful) (hst : L.like s s') (parts : List String) :
    L.After s (s.log parts) (s'.log parts) := by
  have hlike := hL.console (s.console.log parts) hst
  refine hL.after ?_ rfl ⟨rfl, rfl⟩
  rw [State.log, State.log, (hL.twin hst).console]
  exact hlike

lemma agree_define (hL : L.Lawful) (hst : L.like s s') (htask : L.text task) (hname : name ∈ task.names)
    {v : Value} (hv : L.value s.store v) (policy : Redefinition) (span : Span) :
    L.Agree s Any (define policy name v span s) (define policy name v span s') := by
  rw [define, get_bind_apply, get_bind_apply, (hL.names hst htask hname).2]
  split
  · cases policy with
    | strict => exact agree_failed (α := Unit) hst _
    | permissive =>
        have hlogged := hL.after_log hst ["warning:", s!"`{name}` is redefined"]
        have hbound := hL.after_bindTop hlogged.like htask hname (hlogged.value v hv)
        exact .ok (hlogged.trans hbound) trivial
  · exact .ok (hL.after_bindTop hst htask hname hv) trivial

end

/-! #### Types -/

lemma agree_resolve (hL : L.Lawful) (hst : L.like s s') (path : TypePath) :
    L.Agree s Any (resolve path s) (resolve path s') := by
  refine agree_read (f := fun s => s.types.resolve path) hst ?_ fun _ _ => trivial
  rw [(hL.twin hst).types]

/-- The definition of a class or group: a new thing is made, bound and registered under its name. -/
lemma agree_defineType (hL : L.Lawful) (hst : L.like s s') {α : Type} {add : Store → α × Store}
    {st : Statement} {name : String} (htext : L.text (.statement st)) (hname : st.typeName? = some name)
    (entry : α → TypeEntry)
    (hadd : ∀ st, ∃ n, (add st).2 = { st with nextId := n })
    (hsame : ∀ st st' : Store, st'.nextId = st.nextId →
      (add st').1 = (add st).1 ∧ (add st').2.nextId = (add st).2.nextId)
    (policy : Redefinition) (span : Span) :
    L.Agree s Any
      ((do
        let a ← make add
        define policy name (entry a).toValue span
        discard (RecordLang.register name (entry a)) : Eval Unit) s)
      ((do
        let a ← make add
        define policy name (entry a).toValue span
        discard (RecordLang.register name (entry a)) : Eval Unit) s') := by
  have htarget : name ∈ Task.names (.statement st) := by
    cases st with
    | classDef decl | groupDef decl =>
        cases hname
        exact List.mem_singleton_self _
    | _ => cases hname
  obtain ⟨n, hn⟩ := hadd s.store
  obtain ⟨n', hn'⟩ := hadd s'.store
  obtain ⟨hfst, hsnd⟩ := hsame s.store s'.store (hL.twin hst).nextId
  obtain rfl : n' = n := by
    rw [hn, hn'] at hsnd
    exact hsnd
  have hmade : L.Agree s (fun _ a => a = (add s.store).1) (make add s) (make add s') := by
    have hafter := hL.after (s := s) (hL.nextId n' hst) rfl ⟨rfl, rfl⟩
    have houtcome : ∀ s₀ : State, (add s₀.store).2 = { s₀.store with nextId := n' } →
        make add s₀ = .ok (add s₀.store).1 { s₀ with store := { s₀.store with nextId := n' } } := by
      intro s₀ hs₀
      rw [← hs₀]
      rfl
    rw [houtcome s hn, houtcome s' hn', hfst]
    exact .ok hafter rfl
  refine hmade.lift.bind fun a t t' ht _ => ?_
  refine (hL.agree_define ht.like htext htarget (hL.type _ (entry a)) policy span).lift.bind
    fun _ u u' hu _ => ?_
  exact .ok (hL.after (hL.register (entry a) hu.like htext hname) rfl ⟨rfl, rfl⟩) trivial

/-! #### New things -/

lemma agree_newList (hL : L.Lawful) (hst : L.like s s') {items : List Value}
    (hitems : ∀ v ∈ items, L.value s.store v) :
    L.Agree s L.value (newList items s) (newList items s') := by
  have harray : ∀ v ∈ items.toArray, L.value s.store v := by simpa using hitems
  obtain ⟨hlike, hvalue, hnew⟩ := hL.list hst harray
  have href : (s'.store.newList items.toArray).1 = (s.store.newList items.toArray).1 := by
    rw [Store.newList, Store.newList, (hL.twin hst).containers.lists]
  have houtcome : ∀ s₀ : State, newList items s₀ =
      .ok (.list (s₀.store.newList items.toArray).1)
        { s₀ with store := (s₀.store.newList items.toArray).2 } := fun _ => rfl
  rw [houtcome s, houtcome s', href]
  exact .ok ⟨hlike, rfl, hvalue⟩ hnew

lemma agree_newRecord (hL : L.Lawful) (hst : L.like s s') {fields : List (String × Value)}
    (hfields : ∀ field ∈ fields, L.value s.store field.2) :
    L.Agree s L.value (newRecord fields s) (newRecord fields s') := by
  have htable : ∀ x v, (Table.ofList fields).find? x = some v → L.value s.store v :=
    fun x v hv => hfields _ (Table.mem_of_find?_ofList hv)
  obtain ⟨hlike, hvalue, hnew⟩ := hL.record hst htable
  have href : (s'.store.newRecord (.ofList fields)).1 = (s.store.newRecord (.ofList fields)).1 := by
    rw [Store.newRecord, Store.newRecord, (hL.twin hst).containers.records]
  have houtcome : ∀ s₀ : State, newRecord fields s₀ =
      .ok (.record (s₀.store.newRecord (.ofList fields)).1)
        { s₀ with store := (s₀.store.newRecord (.ofList fields)).2 } := fun _ => rfl
  rw [houtcome s, houtcome s', href]
  exact .ok ⟨hlike, rfl, hvalue⟩ hnew

/-- A new function or lambda takes a number and the current scope. -/
lemma agree_newClosure (hL : L.Lawful) (hst : L.like s s') {task : Task} (htask : L.text task)
    {f : Nat → Scope → Value} (hscope : ∀ id scope, (f id scope).scope? = some scope)
    (hbodies : ∀ id scope, ∀ body ∈ (f id scope).bodies, task.Body body) :
    L.Agree s L.value
      ((do
        let id ← make (·.newId)
        return f id (← get).scope : Run Value) s)
      ((do
        let id ← make (·.newId)
        return f id (← get).scope : Run Value) s') := by
  have htwin := hL.twin hst
  have hlike : L.like { s with store := { s.store with nextId := s.store.nextId + 1 } }
      { s' with store := { s'.store with nextId := s'.store.nextId + 1 } } := by
    rw [htwin.nextId]
    exact hL.nextId _ hst
  have hsame : f s'.store.nextId s'.scope = f s.store.nextId s.scope := by
    rw [htwin.nextId, htwin.scope]
  have hvalue := hL.closure hst htask (hscope s.store.nextId s.scope) (hbodies s.store.nextId s.scope)
  have houtcome : ∀ s₀ : State,
      ((do
        let id ← make (·.newId)
        return f id (← get).scope : Run Value) s₀)
      = .ok (f s₀.store.nextId s₀.scope)
        { s₀ with store := { s₀.store with nextId := s₀.store.nextId + 1 } } := fun _ => rfl
  rw [houtcome s, houtcome s', hsame]
  have hafter := hL.after (s := s) hlike rfl ⟨rfl, rfl⟩
  exact .ok hafter (hafter.value _ hvalue)

/-! #### Reading -/

/-- What a field access gives is allowed where its base is. -/
lemma value_of_readField (hL : L.Lawful) (hst : L.like s s') {v w : Value} (hv : L.value s.store v)
    {name : String} {span : Span} (h : readField s.store v name span = .ok w) : L.value s.store w := by
  cases v with
  | record r =>
      simp only [readField] at h
      split at h
      · next hfield =>
          cases h
          exact hL.field hst hv hfield
      · cases h
  | object c r =>
      simp only [readField] at h
      split at h
      · next hfield =>
          cases h
          exact hL.field hst (hL.object.mp hv) hfield
      · cases h
  | ofGroup g =>
      simp only [readField] at h
      split at h
      · next c _ =>
          cases h
          exact hL.type s.store (.ofClass c)
      · cases h
  | _ => cases h

lemma value_of_readIndex (hL : L.Lawful) (hst : L.like s s') {target position w : Value}
    (htarget : L.value s.store target) {span : Span}
    (h : readIndex s.store target position span = .ok w) : L.value s.store w := by
  obtain ⟨r, hr, h⟩ := exists_eq_ok_of_bind h
  obtain ⟨x, -, h⟩ := exists_eq_ok_of_bind h
  have hlist : L.value s.store (.list r) := by
    cases target with
    | list r' =>
        cases hr
        exact htarget
    | _ => cases hr
  dsimp only at h
  split at h
  · next hitem =>
      cases h
      split at hitem
      · exact hL.item hst hlist (Array.mem_of_getElem? hitem)
      · cases hitem
  · cases h

/-- Subvalues of what is allowed are allowed. -/
lemma value_of_at? (hL : L.Lawful) (hst : L.like s s') {v w : Value} (hv : L.value s.store v)
    {path : List String} (hw : v.at? s.store path = some w) : L.value s.store w := by
  induction path generalizing v with
  | nil =>
      cases hw
      exact hv
  | cons name path ih =>
      cases hf : v.field? s.store name with
      | none =>
          rw [Value.at?_cons_none hf] at hw
          exact absurd hw (by simp)
      | some u =>
          rw [Value.at?_cons hf] at hw
          refine ih ?_ hw
          cases v with
          | record r => exact hL.field hst hv hf
          | object c r => exact hL.field hst (hL.object.mp hv) hf
          | _ => exact absurd hf (by simp [Value.field?])

/-- What a match binds is allowed where the value matched is. -/
lemma value_of_match? (hL : L.Lawful) (hst : L.like s s') {v : Value} (hv : L.value s.store v)
    {types : Registry} {pattern : Expr} {bindings : Bindings}
    (h : Pattern.match? types s.store pattern v = .ok (some bindings)) (x : String) (w : Value)
    (hw : (Table.ofList bindings).find? x = some w) : L.value s.store w := by
  obtain ⟨path, hpath⟩ := Pattern.exists_at?_of_match? h _ (Table.mem_of_find?_ofList hw)
  exact hL.value_of_at? hst hv hpath

/-- A match runs the block of the arm that is chosen in a frame of its own. -/
lemma agree_choose (hL : L.Lawful) (hst : L.like s s') {block : Block → Eval Value} {arms : List Arm}
    {v : Value} (hv : L.value s.store v)
    (hblock : ∀ arm ∈ arms, ∀ t t', L.like t t' → L.Agree t L.value (block arm.2 t) (block arm.2 t'))
    (span : Span) :
    L.Agree s L.value (choose v (alternativesOf block arms) span s)
      (choose v (alternativesOf block arms) span s') := by
  have htwin := hL.twin hst
  rw [choose_alternativesOf_apply, choose_alternativesOf_apply, htwin.types,
    htwin.containers.first?_eq, htwin.containers.text_eq]
  rcases hfirst : Pattern.first? s.types s.store v arms with e | _ | ⟨body, bindings⟩
  · refine .error (.refl hst) ?_
    rintro w ⟨⟩
  · refine .error (.refl hst) ?_
    rintro w ⟨⟩
  · obtain ⟨pattern, hmem, hmatch⟩ := Pattern.exists_of_first? hfirst
    exact hL.agree_withFrame hst (hL.value_of_match? hst hv hmatch) fun hinner =>
      hblock (pattern, body) hmem _ _ hinner

/-! #### What calls run -/

/-- Only a plain record is taken for one. -/
lemma value_of_expectRecord {argument : Value} {span : Option Span} {r : RecordRef}
    (h : argument.expectRecord span = .ok r) : argument = .record r := by
  cases argument with
  | record r' =>
      cases h
      rfl
  | _ => cases h

lemma agree_construct (hL : L.Lawful) (hst : L.like s s') (c : Class) {argument : Value}
    (hargument : L.value s.store argument) (span : Span) :
    L.Agree s L.value (construct c argument span s) (construct c argument span s') := by
  have htwin := hL.twin hst
  refine agree_except_bind hst fun r hr => ?_
  obtain rfl := value_of_expectRecord hr
  refine agree_read (f := fun s => c.instantiate s.types s.store r (some span)) hst ?_ fun v hv => ?_
  · rw [htwin.types]
    exact htwin.containers.instantiate_eq ..
  · obtain ⟨_, -, hv⟩ := exists_eq_ok_of_bind hv
    cases hv
    exact hL.object.mpr hargument

/-- The parameters of a lambda are fields of the argument. -/
lemma agree_bindParams (hL : L.Lawful) (hst : L.like s s') (f : Lambda) {argument : Value}
    (hargument : L.value s.store argument) (span : Span) :
    L.Agree s (fun st (params : Frame) => ∀ x v, params.find? x = some v → L.value st v)
      (f.bindParams argument span s) (f.bindParams argument span s') := by
  have htwin := hL.twin hst
  cases argument with
  | record r =>
      have hrule : ∀ s₀ : State, f.bindParams (.record r) span s₀
          = ((liftM (f.params.check s₀.types s₀.store (s₀.store.record r) "function argument"
              (some span)) : Run Unit) >>= fun _ => pure (s₀.store.record r)) s₀ := fun _ => rfl
      rw [hrule s, hrule s', htwin.types, htwin.containers.record_eq, htwin.containers.check_eq]
      refine agree_except_bind hst fun _ _ => ?_
      exact agree_pure hst fun x v hv => hL.field hst hargument hv
  | _ => exact agree_failed hst _

/-- A native function. What `push` adds must be allowed. -/
lemma agree_native (hL : L.Lawful) (hst : L.like s s') (f : Native) {argument : Value}
    (hargument : L.value s.store argument) (span : Span)
    (hpush : f = .push → ∀ r l v, argument = .record r →
      (s.store.record r).find? "list" = some (.list l) → (s.store.record r).find? "item" = some v →
      L.push s.store l v) :
    L.Agree s L.value (f.call argument span s) (f.call argument span s') := by
  rw [f.call_eq_apply]
  have hcontainers := (hL.twin hst).containers
  have hatom : ∀ {st : Store} {v : Value}, v.isAtom = true → L.value st v := fun h => hL.atom h
  cases f with
  | length =>
      cases argument with
      | list r =>
          refine agree_read (f := fun s => .ok (Value.number (s.store.list r).size.toFloat)) hst ?_ ?_
          · rw [hcontainers.list_eq]
          · rintro v ⟨⟩
            exact hatom rfl
      | string text => exact agree_pure hst (hatom rfl)
      | _ => exact agree_failed hst _
  | toString =>
      refine agree_read (f := fun s => .ok (Value.string (argument.text s.store))) hst ?_ ?_
      · rw [hcontainers.text_eq]
      · rintro v ⟨⟩
        exact hatom rfl
  | push =>
      refine agree_except_bind hst fun r hr => ?_
      obtain rfl := value_of_expectRecord hr
      rw [get_bind_apply, get_bind_apply, hcontainers.record_eq]
      refine agree_except_bind hst fun target htarget => ?_
      refine agree_except_bind hst fun item hitem => ?_
      refine agree_except_bind hst fun l hl => ?_
      have hfield : ∀ {name w}, Native.pushField (s.store.record r) name span = .ok w →
          (s.store.record r).find? name = some w := by
        intro name w hw
        rw [Native.pushField] at hw
        split at hw
        · next hfound =>
            cases hw
            exact hfound
        · cases hw
      have hlist : target = .list l := by
        cases target with
        | list l' =>
            cases hl
            rfl
        | _ => cases hl
      subst hlist
      have htargetValue := hL.field hst hargument (hfield htarget)
      have hitemValue := hL.field hst hargument (hfield hitem)
      obtain ⟨hlike, hvalue⟩ := hL.append hst htargetValue hitemValue
        (hpush rfl r l item rfl (hfield htarget) (hfield hitem))
      exact .ok ⟨hlike, rfl, hvalue⟩ (hvalue _ htargetValue)
  | floor =>
      exact agree_except_bind hst fun x _ => agree_pure hst (hatom rfl)

end Lawful

end Likeness

end RecordLang
