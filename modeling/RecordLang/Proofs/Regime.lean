import RecordLang.Proofs.Invocation.Induction
import RecordLang.Proofs.Results

/-!
Regimes: what may come up in evaluation.

A regime says which values may come up, which text may be evaluated in which scope, and which types may
be registered when some numbers have been handed out. It is lawful if what follows from allowed text is
allowed: its parts in the same scope, the blocks inside it with one more frame, the functions that it
defines, and the bodies of these in the scope that they captured. Then evaluation never leaves the
regime. This module holds the rules for actions; that they add up to evaluation is shown elsewhere.

* `Regime`, `Regime.Lawful`: a regime, and what makes it lawful.
* `State.Obeys`: a state in which only allowed values are stored and the types are allowed.
* `Regime.Keeps`: an action in a scope that keeps to a regime, however it ends.
* `Regime.Keeps.bind`, `Regime.Keeps.withFrame`, `Regime.Keeps.withScope`, `Regime.Keeps.invoke`: how
  such actions are put together.
* `Regime.keeps_define`, `Regime.keeps_defineType`, `Regime.keeps_choose` and others: the steps.
-/

namespace RecordLang

/-! ### Regimes -/

/-- Whether a value has captured a scope: a function or a lambda. -/
def Value.capturesScope : Value → Bool
  | .function _ | .lambda _ => true
  | _ => false

lemma Value.capturesScope_of_isAtom {v : Value} (h : v.isAtom = true) : v.capturesScope = false := by
  cases v with
  | function f => cases h
  | lambda f => cases h
  | _ => rfl

/-- Which values may come up, which text may be evaluated in which scope, and which types may be
registered when the numbers below a given one have been handed out. -/
structure Regime where
  value : Value → Prop
  text : Scope → Task → Prop
  types : Nat → Registry → Prop

/-- What follows from what is allowed is allowed. -/
structure Regime.Lawful (R : Regime) : Prop where
  value_of_not_capturesScope : ∀ v, v.capturesScope = false → R.value v
  part : ∀ scope task part, R.text scope task → Task.Part task part → R.text scope part
  inner : ∀ scope task body frame, R.text scope task → Task.Inner task body →
    R.text (scope.push frame) (.block body)
  functionValue : ∀ scope id name arms span, R.text scope (.statement (.function name arms span)) →
    R.value (.function ⟨id, name, arms, scope⟩)
  lambdaValue : ∀ scope id params body span, R.text scope (.expr (.lambda params body span)) →
    R.value (.lambda ⟨id, .ofParams params, body, scope⟩)
  functionBody : ∀ f frame, R.value (.function f) → ∀ arm ∈ f.arms,
    R.text (f.scope.push frame) (.block arm.2)
  lambdaBody : ∀ f frame, R.value (.lambda f) → R.text (f.scope.push frame) (.block f.body)
  types_mono : ∀ n m types, R.types n types → n ≤ m → R.types m types
  classTypes : ∀ (st : Store) types decl, R.types st.nextId types →
    R.types (st.newClass decl none).2.nextId
      (types.insert decl.name (.ofClass (st.newClass decl none).1))
  groupTypes : ∀ (st : Store) types decl, R.types st.nextId types →
    R.types (st.newGroup decl).2.nextId (types.insert decl.name (.ofGroup (st.newGroup decl).1))

/-- A task that may be done in a scope. A call is made by some text, with values that are allowed. -/
def Regime.Allows (R : Regime) (scope : Scope) : Task → Prop
  | .call target argument _ =>
      R.value target ∧ R.value argument ∧ ∃ caller, R.text scope caller
  | task => R.text scope task

/-- Only allowed values are stored, and the types are allowed. -/
structure State.Obeys (R : Regime) (s : State) : Prop where
  held : ∀ v, s.store.Holds v → R.value v
  types : R.types s.store.nextId s.types

namespace State.Obeys

variable {R : Regime} {s t : State}

/-- Only the store and the types count. -/
lemma of_eq (hs : s.Obeys R) (hstore : t.store = s.store) (htypes : t.types = s.types) :
    t.Obeys R := by
  refine ⟨?_, ?_⟩
  · rw [hstore]
    exact hs.held
  · rw [hstore, htypes]
    exact hs.types

/-- A step leaves the regime in force if it stores only allowed values anew. -/
lemma step (hs : s.Obeys R) (htypes : t.types = s.types) (hnumber : t.store.nextId = s.store.nextId)
    (hnew : ∀ v, t.store.Holds v → s.store.Holds v ∨ R.value v) : t.Obeys R := by
  refine ⟨fun v hv => (hnew v hv).elim (hs.held v) id, ?_⟩
  rw [htypes, hnumber]
  exact hs.types

lemma enterFrame (hs : s.Obeys R) {bindings : Frame}
    (hb : ∀ x v, bindings.find? x = some v → R.value v) : (s.enterFrame bindings).Obeys R := by
  refine hs.step rfl rfl fun w hw => ?_
  exact (Store.holds_newFrame hw).imp_right fun ⟨x, hx⟩ => hb x w hx

lemma enterEmpty (hs : s.Obeys R) : (s.enterFrame .empty).Obeys R :=
  hs.enterFrame fun x v hv => absurd hv (by simp)

end State.Obeys

/-! ### Actions -/

/-- The action ended in a state that obeys the regime, in the given scope, with a result that has the
property `P` or with a `return` of an allowed value or with an error. -/
def Regime.Kept {ε α : Type} [Interrupts ε] (R : Regime) (scope : Scope) (P : α → Prop) :
    EStateM.Result ε State α → Prop
  | .ok a t => t.Obeys R ∧ t.scope = scope ∧ P a
  | .error e t =>
      t.Obeys R ∧ t.scope = scope ∧ ∀ v, Interrupts.toInterrupt e = .returned v → R.value v

/-- From every state that obeys the regime, in the given scope, the action keeps to it. -/
def Regime.Keeps {ε α : Type} [Interrupts ε] (R : Regime) (scope : Scope) (x : EStateM ε State α)
    (P : α → Prop) : Prop :=
  ∀ s : State, s.Obeys R → s.scope = scope → R.Kept scope P (x s)

namespace Regime

section

variable {R : Regime} {scope : Scope} {ε α β : Type} [Interrupts ε] {P : α → Prop} {Q : β → Prop}

lemma keeps_pure {a : α} (h : P a) : R.Keeps scope (pure a : EStateM ε State α) P :=
  fun _ hs hscope => ⟨hs, hscope, h⟩

/-- The second action starts where the first one led. -/
lemma Kept.bind {x : EStateM ε State α} {f : α → EStateM ε State β} {s : State}
    (hx : R.Kept scope P (x s))
    (hf : ∀ a t, x s = .ok a t → t.Obeys R → t.scope = scope → P a → R.Kept scope Q (f a t)) :
    R.Kept scope Q ((x >>= f) s) := by
  rw [bind_apply]
  cases h : x s with
  | ok a t =>
      rw [h] at hx
      obtain ⟨ht, htscope, ha⟩ := hx
      exact hf a t h ht htscope ha
  | error e t =>
      rw [h] at hx
      exact hx

lemma Keeps.bind {x : EStateM ε State α} {f : α → EStateM ε State β} (hx : R.Keeps scope x P)
    (hf : ∀ a, P a → R.Keeps scope (f a) Q) : R.Keeps scope (x >>= f) Q :=
  fun s hs hscope => (hx s hs hscope).bind fun a t _ ht htscope ha => hf a ha t ht htscope

lemma Keeps.mono {x : EStateM ε State α} {P' : α → Prop} (hx : R.Keeps scope x P)
    (h : ∀ a, P a → P' a) : R.Keeps scope x P' := by
  intro s hs hscope
  have hkept := hx s hs hscope
  cases hxs : x s with
  | ok a t =>
      rw [hxs] at hkept
      exact ⟨hkept.1, hkept.2.1, h a hkept.2.2⟩
  | error e t =>
      rw [hxs] at hkept
      exact hkept

lemma Kept.discard {x : EStateM ε State α} {s : State} (hx : R.Kept scope P (x s)) :
    R.Kept scope (fun _ => True) (Functor.discard x s) := by
  rw [discard_apply]
  cases h : x s with
  | ok a t =>
      rw [h] at hx
      exact ⟨hx.1, hx.2.1, trivial⟩
  | error e t =>
      rw [h] at hx
      exact hx

lemma Keeps.discard {x : EStateM ε State α} (hx : R.Keeps scope x P) :
    R.Keeps scope (Functor.discard x) fun _ => True :=
  fun s hs hscope => (hx s hs hscope).discard

/-- What follows looks at the state. -/
lemma keeps_get {f : State → EStateM ε State β}
    (h : ∀ s : State, s.Obeys R → s.scope = scope → R.Kept scope Q (f s s)) :
    R.Keeps scope (get >>= f) Q :=
  h

lemma keeps_modify {f : State → State}
    (h : ∀ s : State, s.Obeys R → (f s).Obeys R ∧ (f s).scope = s.scope) :
    R.Keeps scope (modify f : EStateM ε State PUnit) fun _ => True :=
  fun s hs hscope => ⟨(h s hs).1, (h s hs).2.trans hscope, trivial⟩

/-- All results have the property that each of them has. -/
lemma keeps_mapM {γ : Type} {f : γ → EStateM ε State α} {cs : List γ}
    (h : ∀ c ∈ cs, R.Keeps scope (f c) P) : R.Keeps scope (cs.mapM f) fun as => ∀ a ∈ as, P a := by
  induction cs with
  | nil =>
      rw [List.mapM_nil]
      exact keeps_pure (by simp)
  | cons c rest ih =>
      obtain ⟨hc, hrest⟩ := List.forall_mem_cons.mp h
      rw [List.mapM_cons]
      refine hc.bind fun a ha => (ih hrest).bind fun as has => keeps_pure ?_
      exact List.forall_mem_cons.mpr ⟨ha, has⟩

lemma keeps_forM {γ : Type} {f : γ → EStateM ε State PUnit} {cs : List γ}
    (h : ∀ c ∈ cs, R.Keeps scope (f c) fun _ => True) : R.Keeps scope (cs.forM f) fun _ => True := by
  induction cs with
  | nil => exact keeps_pure trivial
  | cons c rest ih =>
      obtain ⟨hc, hrest⟩ := List.forall_mem_cons.mp h
      exact hc.bind fun _ _ => ih hrest

end

section

variable {R : Regime} {scope : Scope} {α : Type} {P : α → Prop} {s : State}

/-- An error leaves the state as it is. -/
lemma kept_failed (hs : s.Obeys R) (hscope : s.scope = scope) (e : Error) :
    R.Kept scope P (.error e s : EStateM.Result Error State α) := by
  refine ⟨hs, hscope, ?_⟩
  rintro v ⟨⟩

lemma keeps_throw (e : Error) : R.Keeps scope (throw e : Run α) P :=
  fun _ hs hscope => kept_failed hs hscope e

lemma Keeps.lift {x : Run α} (hx : R.Keeps scope x P) : R.Keeps scope (liftM x : Eval α) P := by
  intro s hs hscope
  have hkept := hx s hs hscope
  rw [lift_apply]
  cases h : x s <;> rw [h] at hkept <;> exact hkept

/-- A pure computation. -/
lemma keeps_except {x : Except Error α} (h : ∀ a, x = .ok a → P a) :
    R.Keeps scope (liftM x : Run α) P := by
  cases x with
  | ok a => exact keeps_pure (h a rfl)
  | error e => exact keeps_throw e

/-- A pure computation in front: the rest starts in the same state. -/
lemma kept_except_bind {β : Type} {Q : β → Prop} {x : Except Error α} {f : α → Run β}
    (hs : s.Obeys R) (hscope : s.scope = scope) (hf : ∀ a, x = .ok a → R.Kept scope Q (f a s)) :
    R.Kept scope Q (((liftM x : Run α) >>= f) s) := by
  cases x with
  | ok a => exact hf a rfl
  | error e => exact kept_failed hs hscope e

/-- A frame of its own is left again. -/
lemma Keeps.withFrame {x : Eval α} {bindings : Frame}
    (hx : ∀ frame, R.Keeps (scope.push frame) x P)
    (hb : ∀ y v, bindings.find? y = some v → R.value v) :
    R.Keeps scope (RecordLang.withFrame bindings x) P := by
  intro s hs hscope
  have hinner : (s.enterFrame bindings).scope = scope.push (s.store.newFrame bindings).1 := by
    rw [← hscope]
    rfl
  have hkept := hx _ (s.enterFrame bindings) (hs.enterFrame hb) hinner
  simp only [RecordLang.withFrame]
  cases h : x (s.enterFrame bindings) with
  | ok a t | error i t =>
      rw [h] at hkept
      obtain ⟨ht, htscope, hresult⟩ := hkept
      have hleave : leaveFrame t = .ok () { t with scope := s.scope } :=
        leaveFrame_eq (htscope.trans hinner.symm)
      simp only [hleave]
      exact ⟨ht.of_eq rfl rfl, hscope, hresult⟩

/-- Afterwards the scope is the one before. -/
lemma Keeps.withScope {x : Eval α} {inner : Scope} (hx : R.Keeps inner x P) :
    R.Keeps scope (RecordLang.withScope inner x) P := by
  intro s hs hscope
  have hkept := hx { s with scope := inner } (hs.of_eq rfl rfl) rfl
  rw [withScope_apply]
  cases h : x { s with scope := inner } with
  | ok a t | error i t =>
      rw [h] at hkept
      exact ⟨hkept.1.of_eq rfl rfl, hscope, hkept.2.2⟩

lemma Keeps.settle {x : Eval Value} (hx : R.Keeps scope x R.value) :
    R.Keeps scope (RecordLang.settle x) R.value := by
  intro s hs hscope
  have hkept := hx s hs hscope
  rw [settle_apply]
  rcases h : x s with ⟨v, t⟩ | ⟨v | e, t⟩
  · rw [h] at hkept
    exact hkept
  · rw [h] at hkept
    exact ⟨hkept.1, hkept.2.1, hkept.2.2 v rfl⟩
  · rw [h] at hkept
    exact kept_failed hkept.1 hkept.2.1 e

/-! ### Calls -/

lemma keeps_pushCall (c : CallFrame) (limit : Nat) :
    R.Keeps scope (pushCall c limit) fun _ => True := by
  refine keeps_get fun s hs hscope => ?_
  split
  · exact ⟨hs.of_eq rfl rfl, hscope, trivial⟩
  · exact kept_failed hs hscope _

lemma keeps_popCall : R.Keeps scope popCall fun _ => True := by
  refine keeps_get fun s hs hscope => ?_
  cases s.calls with
  | nil => exact kept_failed hs hscope _
  | cons c rest => exact ⟨hs.of_eq rfl rfl, hscope, trivial⟩

lemma Keeps.invoke {body : Eval Value} (hbody : R.Keeps scope body R.value) (config : Config)
    (callee : String) (span : Span) :
    R.Keeps scope (RecordLang.invoke config callee span body) R.value := by
  refine (keeps_pushCall _ _).lift.bind fun _ _ => ?_
  refine hbody.settle.lift.bind fun v hv => ?_
  exact keeps_popCall.lift.discard.bind fun _ _ => keeps_pure hv

/-! ### Names -/

lemma keeps_getName (name : String) (span : Option Span) :
    R.Keeps scope (getName name span) R.value := by
  refine keeps_get fun s hs hscope => ?_
  cases hv : s.lookup name with
  | some v => exact ⟨hs, hscope, hs.held v (Store.holds_of_lookup hv)⟩
  | none => exact kept_failed hs hscope _

/-- Binding a name stores its value. -/
lemma obeys_bindTop (hs : s.Obeys R) (name : String) {v : Value} (hv : R.value v) :
    (s.bindTop name v).Obeys R := by
  refine hs.step rfl rfl fun w hw => ?_
  obtain hold | rfl := Store.holds_bind hw
  · exact Or.inl hold
  · exact Or.inr hv

lemma keeps_assign (name : String) {v : Value} (hv : R.value v) (span : Option Span) :
    R.Keeps scope (assign name v span) fun _ => True := by
  refine keeps_get fun s hs hscope => ?_
  split
  · exact ⟨obeys_bindTop hs name hv, hscope, trivial⟩
  · exact kept_failed hs hscope _

/-- A definition is an error that changes nothing, or it binds the name and logs at most a line. -/
lemma define_cases (policy : Redefinition) (name : String) (v : Value) (span : Span) (s : State) :
    (∃ e, define policy name v span s = .error e s) ∨
      ∃ parts : Option (List String),
        define policy name v span s = .ok () ((parts.elim s s.log).bindTop name v) := by
  rw [define, get_bind_apply]
  split
  · cases policy with
    | strict => exact Or.inl ⟨_, rfl⟩
    | permissive => exact Or.inr ⟨some _, rfl⟩
  · exact Or.inr ⟨none, rfl⟩

lemma keeps_define (policy : Redefinition) (name : String) {v : Value} (hv : R.value v) (span : Span) :
    R.Keeps scope (define policy name v span) fun _ => True := by
  intro s hs hscope
  obtain ⟨e, he⟩ | ⟨parts, hparts⟩ := define_cases policy name v span s
  · rw [he]
    exact kept_failed hs hscope e
  · rw [hparts]
    cases parts with
    | none => exact ⟨obeys_bindTop hs name hv, hscope, trivial⟩
    | some parts =>
        have hlogged : (s.log parts).Obeys R := hs.of_eq rfl rfl
        exact ⟨obeys_bindTop hlogged name hv, hscope, trivial⟩

/-! ### Types and new things -/

lemma keeps_resolve (path : TypePath) : R.Keeps scope (resolve path) fun _ => True :=
  keeps_get fun s hs hscope => keeps_except (fun _ _ => trivial) s hs hscope

lemma keeps_newList {items : List Value} (hi : ∀ v ∈ items, R.value v) :
    R.Keeps scope (newList items) fun v => v.capturesScope = false := by
  intro s hs hscope
  refine ⟨hs.step rfl rfl fun w hw => ?_, hscope, rfl⟩
  exact (Store.holds_newList hw).imp_right fun hmem => hi w (by simpa using hmem)

lemma keeps_newRecord {fields : List (String × Value)} (hf : ∀ field ∈ fields, R.value field.2) :
    R.Keeps scope (newRecord fields) fun v => v.capturesScope = false := by
  intro s hs hscope
  refine ⟨hs.step rfl rfl fun w hw => ?_, hscope, rfl⟩
  exact (Store.holds_newRecord hw).imp_right fun ⟨x, hx⟩ => hf _ (Table.mem_of_find?_ofList hx)

/-- The definition of a class or group: a new thing is made, bound and registered under its name. -/
lemma keeps_defineType {add : Store → α × Store} {name : String} (entry : α → TypeEntry)
    (hvalue : ∀ a, R.value (entry a).toValue)
    (hadd : ∀ st, ∃ n ≥ st.nextId, (add st).2 = { st with nextId := n })
    (hmono : ∀ n m types, R.types n types → n ≤ m → R.types m types)
    (hregister : ∀ (st : Store) types, R.types st.nextId types →
      R.types (add st).2.nextId (types.insert name (entry (add st).1)))
    (policy : Redefinition) (span : Span) :
    R.Keeps scope
      (do
        let a ← make add
        define policy name (entry a).toValue span
        discard (register name (entry a)) : Eval Unit)
      fun _ => True := by
  intro s hs hscope
  obtain ⟨n, hn, hstore⟩ := hadd s.store
  have hmade : State.Obeys R { s with store := (add s.store).2 } := by
    rw [hstore]
    exact ⟨fun v hv => hs.held v (Store.holds_nextId hv), hmono _ _ _ hs.types hn⟩
  have htypes := hregister s.store s.types hs.types
  have hdefine := define_cases policy name (entry (add s.store).1).toValue span
    { s with store := (add s.store).2 }
  have hrest : ((do
        let a ← make add
        define policy name (entry a).toValue span
        discard (register name (entry a)) : Eval Unit) s) =
      ((do
        define policy name (entry (add s.store).1).toValue span
        discard (register name (entry (add s.store).1)) : Eval Unit)
          { s with store := (add s.store).2 }) := rfl
  rw [hrest, bind_apply, lift_apply]
  obtain ⟨e, he⟩ | ⟨parts, hparts⟩ := hdefine
  · rw [he]
    refine ⟨hmade, hscope, ?_⟩
    rintro v ⟨⟩
  · rw [hparts]
    cases parts with
    | none =>
        exact ⟨⟨(obeys_bindTop hmade name (hvalue _)).held, htypes⟩, hscope, trivial⟩
    | some parts =>
        have hlogged : State.Obeys R (State.log { s with store := (add s.store).2 } parts) :=
          hmade.of_eq rfl rfl
        exact ⟨⟨(obeys_bindTop hlogged name (hvalue _)).held, htypes⟩, hscope, trivial⟩

/-- The parameters of a lambda are fields of the argument, so they are stored. -/
lemma keeps_bindParams (f : Lambda) (argument : Value) (span : Span) :
    R.Keeps scope (f.bindParams argument span)
      fun params => ∀ x v, params.find? x = some v → R.value v := by
  cases argument with
  | record r =>
      refine keeps_get fun s hs hscope => ?_
      refine kept_except_bind hs hscope fun _ _ => ?_
      exact ⟨hs, hscope, fun x v hv => hs.held v (.record r x hv)⟩
  | _ => exact keeps_throw _

end

/-! ### Lawful regimes -/

namespace Lawful

variable {R : Regime} {scope : Scope}

lemma value_of_isAtom (hR : R.Lawful) {v : Value} (h : v.isAtom = true) : R.value v :=
  hR.value_of_not_capturesScope v (Value.capturesScope_of_isAtom h)

lemma value_toValue (hR : R.Lawful) (entry : TypeEntry) : R.value entry.toValue := by
  cases entry <;> exact hR.value_of_not_capturesScope _ rfl

lemma keeps_construct (hR : R.Lawful) (c : Class) (argument : Value) (span : Span) :
    R.Keeps scope (construct c argument span) R.value := by
  refine (keeps_except fun r _ => trivial).bind fun r _ => keeps_get fun s hs hscope => ?_
  refine keeps_except (fun v hv => ?_) s hs hscope
  obtain ⟨_, -, hv⟩ := exists_eq_ok_of_bind hv
  cases hv
  exact hR.value_of_not_capturesScope _ rfl

/-- A native function gives no function, and pushes what is stored. -/
lemma keeps_native (hR : R.Lawful) (f : Native) (argument : Value) (span : Span) :
    R.Keeps scope (f.call argument span) R.value := by
  rw [f.call_eq_apply]
  have hplain := hR.value_of_not_capturesScope
  cases f with
  | length =>
      cases argument with
      | list r => exact fun s hs hscope => ⟨hs, hscope, hplain _ rfl⟩
      | string text => exact keeps_pure (hplain _ rfl)
      | _ => exact keeps_throw _
  | toString => exact fun s hs hscope => ⟨hs, hscope, hplain _ rfl⟩
  | push =>
      intro s hs hscope
      refine kept_except_bind hs hscope fun r _ => ?_
      refine kept_except_bind hs hscope fun target _ => ?_
      refine kept_except_bind hs hscope fun item hitem => ?_
      refine kept_except_bind hs hscope fun list _ => ?_
      refine ⟨hs.step rfl rfl fun w hw => ?_, hscope, hplain _ rfl⟩
      obtain hold | rfl := Store.holds_append hw
      · exact Or.inl hold
      · exact Or.inl (holds_of_pushField hitem)
  | floor => exact (keeps_except fun x _ => trivial).bind fun x _ => keeps_pure (hplain _ rfl)

/-- A new function has captured the current scope. -/
lemma keeps_newFunction (hR : R.Lawful) {name : String} {arms : List Arm} {span : Span}
    (h : R.text scope (.statement (.function name arms span))) :
    R.Keeps scope (newFunction name arms) R.value := by
  intro s hs hscope
  refine ⟨⟨fun v hv => hs.held v (Store.holds_nextId hv), ?_⟩, hscope, ?_⟩
  · exact hR.types_mono _ _ _ hs.types (Nat.le_succ _)
  · rw [← hscope] at h
    exact hR.functionValue s.scope s.store.nextId name arms span h

/-- A new lambda has captured the current scope. -/
lemma keeps_newLambda (hR : R.Lawful) {params : List (String × Option TypeExpr)} {body : Block}
    {span : Span} (h : R.text scope (.expr (.lambda params body span))) :
    R.Keeps scope (newLambda params body) R.value := by
  intro s hs hscope
  refine ⟨⟨fun v hv => hs.held v (Store.holds_nextId hv), ?_⟩, hscope, ?_⟩
  · exact hR.types_mono _ _ _ hs.types (Nat.le_succ _)
  · rw [← hscope] at h
    exact hR.lambdaValue s.scope s.store.nextId params body span h

end Lawful

section

variable {R : Regime} {scope : Scope}

/-- What a match binds is stored, or is the value matched. -/
lemma value_of_match? {s : State} (hs : s.Obeys R) {v : Value} (hv : R.value v) {pattern : Expr}
    {bindings : Bindings} (h : Pattern.match? s.types s.store pattern v = .ok (some bindings))
    (x : String) (w : Value) (hw : (Table.ofList bindings).find? x = some w) : R.value w := by
  obtain heq | hheld := Pattern.holds_of_match? h _ (Table.mem_of_find?_ofList hw)
  · have heq : w = v := heq
    rw [heq]
    exact hv
  · exact hs.held w hheld

/-- A match runs the block of the arm that is chosen in a frame of its own. -/
lemma keeps_choose {block : Block → Eval Value} {arms : List Arm} {v : Value} (hv : R.value v)
    (hblock : ∀ arm ∈ arms, ∀ frame, R.Keeps (scope.push frame) (block arm.2) R.value) (span : Span) :
    R.Keeps scope (choose v (alternativesOf block arms) span) R.value := by
  intro s hs hscope
  rw [choose_alternativesOf_apply]
  rcases hfirst : Pattern.first? s.types s.store v arms with e | _ | ⟨body, bindings⟩
  · exact (keeps_throw e).lift s hs hscope
  · exact (keeps_throw _).lift s hs hscope
  · obtain ⟨pattern, hmem, hmatch⟩ := Pattern.exists_of_first? hfirst
    exact Keeps.withFrame (hblock (pattern, body) hmem) (value_of_match? hs hv hmatch) s hs hscope

end

end Regime

end RecordLang
