import RecordLang.Proofs.Errors
import RecordLang.Proofs.Scoping.Invariant

/-!
Steps of evaluation that keep the scoping invariant.

An outcome is sound if it does not report an unresolved identifier and every value it hands over, as a
result or by a `return`, has the invariant in the state that is left. What evaluation may rely on is a
state in which the store has the invariant and the names of the check are in scope.

* `Error.IsUnresolved`: the error that must not come up.
* `Sound`: a sound outcome, with a condition on the result.
* `State.Ready`: the state in which something checked with given names may run.
* `Sound.bind`, `Sound.withFrame`, `Sound.withScope`, `Sound.recordingCall`: how outcomes are put
  together; the effect of what ran first carries earlier facts over.
* `sound_getName`, `sound_define`, `sound_choose` and others: the steps.
-/

namespace RecordLang

/-! ### Unresolved identifiers -/

/-- The error of an identifier that stands for nothing. -/
def Error.IsUnresolved : Error → Prop
  | .fault (.unresolvedIdentifier _) _ => True
  | _ => False

/-- Only reading a name and assigning to one report it; the pure parts of evaluation fail in other
ways. -/
lemma Error.PointsInto.not_isUnresolved {sites : List Site} {e : Error}
    (h : e.PointsInto sites Cause.IsData) : ¬ e.IsUnresolved := by
  intro hunresolved
  cases e with
  | fault cause span =>
      cases span with
      | none => exact h
      | some span =>
          cases cause with
          | unresolvedIdentifier name => exact h.1
          | _ => exact hunresolved
  | defect d => exact hunresolved

/-! ### Sound outcomes -/

/-- The store of the state has the invariant, and so has the value. -/
def ScopedResult (v : Value) (t : State) : Prop :=
  t.store.Scoped ∧ v.Scoped t.store

/-- A `return` hands over a value that has the invariant; a failure is no unresolved identifier. -/
def Interrupt.Sound (t : State) : Interrupt → Prop
  | .returned v => ScopedResult v t
  | .failed e => ¬ e.IsUnresolved

/-- The outcome is a result with the property `P`, or a sound interrupt. -/
def Sound {ε α : Type} [Interrupts ε] (P : α → State → Prop) : EStateM.Result ε State α → Prop
  | .ok a t => P a t
  | .error e t => (Interrupts.toInterrupt e).Sound t

section

variable {ε α β : Type} [Interrupts ε] {P : α → State → Prop} {Q : β → State → Prop} {s : State}

/-- The second action starts where the first one led. -/
lemma Sound.bind {names : List String} {x : EStateM ε State α} {f : α → EStateM ε State β}
    (hx : Sound P (x s)) (he : HasEffect names x)
    (hf : ∀ a t, Effect names s none t → P a t → Sound Q (f a t)) : Sound Q ((x >>= f) s) := by
  have h₁ := he s
  rw [bind_apply]
  cases hs : x s with
  | ok a t =>
      rw [hs] at h₁ hx
      exact hf a t h₁ hx
  | error e t =>
      rw [hs] at hx
      exact hx

lemma Sound.mono {P' : α → State → Prop} {r : EStateM.Result ε State α} (h : Sound P r)
    (hP : ∀ a t, P a t → P' a t) : Sound P' r := by
  cases r with
  | ok a t => exact hP a t h
  | error e t => exact h

lemma Sound.discard {P : State → Prop} {x : EStateM ε State α} (h : Sound (fun _ => P) (x s)) :
    Sound (fun _ => P) (Functor.discard x s) := by
  rw [discard_apply]
  cases hs : x s <;> rw [hs] at h <;> exact h

end

section

variable {α : Type} {P : α → State → Prop} {s : State} {sites : List Site}

lemma Sound.lift {x : Run α} (h : Sound P (x s)) : Sound P ((liftM x : Eval α) s) := by
  rw [lift_apply]
  cases hs : x s <;> rw [hs] at h <;> exact h

lemma sound_except {x : Except Error α} (hx : Blames sites x) (h : ∀ a, x = .ok a → P a s) :
    Sound P ((liftM x : Run α) s) := by
  cases x with
  | ok a => exact h a rfl
  | error e => exact (hx e rfl).not_isUnresolved

lemma sound_liftExcept {x : Except Error α} (hx : Blames sites x) (h : ∀ a, x = .ok a → P a s) :
    Sound P ((liftM x : Eval α) s) :=
  (sound_except hx h).lift

/-- A pure computation in front: the rest starts in the same state. -/
lemma sound_except_bind {β : Type} {Q : β → State → Prop} {x : Except Error α} {f : α → Run β}
    (hx : Blames sites x) (hf : ∀ a, x = .ok a → Sound Q (f a s)) :
    Sound Q (((liftM x : Run α) >>= f) s) := by
  cases x with
  | ok a => exact hf a rfl
  | error e => exact (hx e rfl).not_isUnresolved

lemma sound_liftExcept_bind {β : Type} {Q : β → State → Prop} {x : Except Error α} {f : α → Eval β}
    (hx : Blames sites x) (hf : ∀ a, x = .ok a → Sound Q (f a s)) :
    Sound Q (((liftM x : Eval α) >>= f) s) := by
  cases x with
  | ok a => exact hf a rfl
  | error e => exact (hx e rfl).not_isUnresolved

variable {x : Eval Value}

/-- The frame is left again, and the store is what the body made of it. -/
lemma Sound.withFrame {names : List String} {bindings : Frame}
    (h : Sound ScopedResult (x (s.enterFrame bindings))) (he : HasEffect names x) :
    Sound ScopedResult (withFrame bindings x s) := by
  rw [withFrame_apply he]
  cases hs : x (s.enterFrame bindings) <;> rw [hs] at h <;> exact h

lemma Sound.withScope {scope : Scope} (h : Sound ScopedResult (x { s with scope })) :
    Sound ScopedResult (withScope scope x s) := by
  rw [withScope_apply]
  cases hs : x { s with scope } <;> rw [hs] at h <;> exact h

lemma Sound.settle (h : Sound ScopedResult (x s)) : Sound ScopedResult (settle x s) := by
  rw [settle_apply]
  rcases hs : x s with ⟨v, t⟩ | ⟨v | e, t⟩ <;> rw [hs] at h <;> exact h

lemma Sound.recordingCall {body : Run Value} {callee : String} {span : Span}
    (h : Sound ScopedResult (body { s with calls := ⟨callee, some span⟩ :: s.calls }))
    (he : HasEffect [] body) : Sound ScopedResult (recordingCall callee span body s) := by
  rw [recordingCall_apply he]
  cases hs : body { s with calls := ⟨callee, some span⟩ :: s.calls } <;> rw [hs] at h <;> exact h

end

/-! ### States that are ready -/

/-- Something checked with the names `visible` may run: the store has the invariant, and these names are
in scope. -/
structure State.Ready (visible : List String) (s : State) : Prop where
  store : s.store.Scoped
  sees : ∀ x ∈ visible, s.store.Sees s.scope x

namespace State.Ready

variable {visible names : List String} {s t : State}

/-- What was in scope is still in scope after an effect. -/
lemma after {i : Option Interrupt} (h : s.Ready visible) (he : Effect names s i t)
    (hst : t.store.Scoped) : t.Ready visible := by
  refine ⟨hst, fun x hx => ?_⟩
  rw [he.scope_eq]
  exact (h.sees x hx).mono he.keepsNames

/-- A frame whose bindings have the invariant may be entered, and its names come into scope. -/
lemma enterFrame {inner : List String} {bindings : Frame} (hst : s.store.Scoped)
    (hb : ∀ x v, bindings.find? x = some v → v.Scoped s.store)
    (hinner : ∀ x ∈ inner, bindings.contains x = true ∨ s.store.Sees s.scope x) :
    (s.enterFrame bindings).Ready inner := by
  refine ⟨hst.newFrame hb, fun x hx => ?_⟩
  obtain hnew | ⟨r, hr, hold⟩ := hinner x hx
  · refine ⟨(s.store.newFrame bindings).1, List.mem_cons_self, ?_⟩
    rw [show (s.enterFrame bindings).store = (s.store.newFrame bindings).2 from rfl,
      Store.frame_newFrame]
    exact hnew
  · exact ⟨r, List.mem_cons_of_mem _ hr, Store.Scoped.keepsNames_newFrame s.store bindings r x hold⟩

/-- A name bound in the innermost frame comes into scope. -/
lemma sees_bindTop {name : String} {v : Value} (h : s.Ready visible)
    (htop : s.store.HasFrame s.scope.top) :
    ∀ x ∈ name :: visible, (s.bindTop name v).store.Sees s.scope x := by
  intro x hx
  obtain rfl | hx := List.mem_cons.mp hx
  · refine ⟨s.scope.top, s.scope.top_mem_frames, ?_⟩
    show ((s.store.bind s.scope.top x v).frame s.scope.top).contains x = true
    rw [Store.frame_bind _ _ _ _ _ htop, if_pos rfl, Table.contains_insert]
    exact Or.inl rfl
  · exact (h.sees x hx).mono fun r y hy => Store.contains_frame_bind hy _ _ _

/-- The value need have the invariant only once the name is bound, so a function may use its own. -/
lemma bindTop {name : String} {v : Value} (h : s.Ready visible)
    (htop : s.store.HasFrame s.scope.top) (hv : v.Scoped (s.bindTop name v).store) :
    (s.bindTop name v).Ready (name :: visible) :=
  ⟨h.store.bind hv, h.sees_bindTop htop⟩

end State.Ready

/-- What binds nothing new leaves the state ready, if the store keeps the invariant. -/
lemma Sound.ready {ε α : Type} [Interrupts ε] {visible names : List String} {s : State}
    {x : EStateM ε State α} (h : Sound (fun _ t => t.store.Scoped) (x s)) (hs : s.Ready visible)
    (he : HasEffect names x) : Sound (fun _ => State.Ready visible) (x s) := by
  have h₁ := he s
  cases hx : x s with
  | ok a t =>
      rw [hx] at h h₁
      exact hs.after h₁ h
  | error e t =>
      rw [hx] at h
      exact h

/-- A block inside starts with an empty frame and leaves the state ready for what was checked with
it. -/
lemma sound_innerBlock {visible names : List String} {s : State} {x : Eval Value}
    (hs : s.Ready visible) (he : HasEffect names x)
    (hx : ∀ t : State, t.Ready visible → t.store.HasFrame t.scope.top → Sound ScopedResult (x t)) :
    Sound (fun _ => State.Ready visible) (Functor.discard (withFrame .empty x) s) := by
  have hready : (s.enterFrame .empty).Ready visible :=
    .enterFrame hs.store (fun x v hv => absurd hv (by simp))
      fun x hx => Or.inr (hs.sees x hx)
  have hvalue := (hx _ hready (s.hasFrame_top_enterFrame .empty)).withFrame he
  have heffect : HasEffect [] (withFrame .empty x) := he.withFrame .empty
  exact (hvalue.mono fun _ _ h => h.1).discard.ready hs heffect.discard

/-! ### Names -/

section

variable {visible : List String} {s : State}

lemma sound_getName (hs : s.Ready visible) {name : String} (hname : name ∈ visible)
    (span : Option Span) : Sound ScopedResult (getName name span s) := by
  have hsome := Store.isSome_lookup_iff.mpr (hs.sees name hname)
  obtain ⟨v, hv⟩ := Option.isSome_iff_exists.mp hsome
  have hlookup : s.lookup name = some v := hv
  have hget : getName name span s = .ok v s := by
    rw [getName, get_bind_apply, hlookup]
    rfl
  rw [hget]
  exact ⟨hs.store, hs.store v (Store.holds_of_lookup hv)⟩

/-- A name in scope can be assigned to. -/
lemma sound_assign (hs : s.Ready visible) (htop : s.store.HasFrame s.scope.top) {name : String}
    (hname : name ∈ visible) {v : Value} (hv : v.Scoped s.store) (span : Option Span) :
    Sound (fun _ => State.Ready visible) (assign name v span s) := by
  have hsome : (s.lookup name).isSome = true := Store.isSome_lookup_iff.mpr (hs.sees name hname)
  have hassign : assign name v span s = .ok () (s.bindTop name v) := by
    rw [assign, get_bind_apply, if_pos hsome]
    rfl
  rw [hassign]
  have hkeep : s.store.KeepsNames (s.bindTop name v).store :=
    fun _ _ hx => Store.contains_frame_bind hx _ _ _
  have hready := hs.bindTop htop (hv.mono hkeep)
  exact ⟨hready.store, fun x hx => hready.sees x (List.mem_cons_of_mem name hx)⟩

/-- A definition brings its name into scope. -/
lemma sound_define (hs : s.Ready visible) (htop : s.store.HasFrame s.scope.top)
    (policy : Redefinition) {name : String} {v : Value}
    (hv : v.Scoped (s.store.bind s.scope.top name v)) (span : Span) :
    Sound (fun _ => State.Ready (name :: visible)) (define policy name v span s) := by
  have hdefined : ∀ parts : List String, ((s.log parts).bindTop name v).Ready (name :: visible) :=
    fun parts => State.Ready.bindTop (s := s.log parts) ⟨hs.store, hs.sees⟩ htop hv
  rw [define, get_bind_apply]
  split
  · cases policy with
    | strict => exact id
    | permissive => exact hdefined _
  · exact hs.bindTop htop hv

/-! ### Types -/

/-- A type path in front: the rest starts in the same state. -/
lemma sound_resolve_bind {β : Type} {Q : β → State → Prop} (path : TypePath)
    {f : TypeEntry → Eval β} (hf : ∀ entry, Sound Q (f entry s)) :
    Sound Q (((liftM (resolve path) : Eval TypeEntry) >>= f) s) := by
  have hblames := blames_resolve s.types (List.Subset.refl path.sites)
  have hlift : (liftM (resolve path) : Eval TypeEntry) s
      = (liftM (s.types.resolve path) : Eval TypeEntry) s := rfl
  rw [bind_apply, hlift, ← bind_apply]
  exact sound_liftExcept_bind hblames fun entry _ => hf entry

lemma Store.Scoped.newGroup {st : Store} (h : st.Scoped) (decl : GroupDecl) :
    (st.newGroup decl).2.Scoped := by
  rw [newGroup_snd]
  exact h.nextId _

/-- The definition of a class or group brings its name into scope. -/
lemma sound_defineType {α : Type} {add : Store → α × Store} (hs : s.Ready visible)
    (htop : s.store.HasFrame s.scope.top) (he : HasEffect [] (make add))
    (hadd : (add s.store).2.Scoped) (policy : Redefinition) {name : String} (value : α → Value)
    (hvalue : ∀ a st, (value a).Scoped st) (entry : α → TypeEntry) (span : Span) :
    Sound (fun _ => State.Ready (name :: visible))
      ((do
        let a ← make add
        define policy name (value a) span
        discard (register name (entry a)) : Eval Unit) s) := by
  have hmade : Sound (fun _ t => t.store.Scoped) ((liftM (make add) : Eval α) s) := hadd
  refine hmade.bind he.lift fun a t ht hst => ?_
  have htop' := ht.hasFrame_top htop
  refine (sound_define (hs.after ht hst) htop' policy (hvalue a _) span).lift.bind
    (hasEffect_define policy _ span (List.mem_singleton_self name)).lift fun _ u _ hu => ?_
  exact ⟨hu.store, hu.sees⟩

/-! ### New things -/

lemma sound_newList (hst : s.store.Scoped) {items : List Value}
    (hi : ∀ v ∈ items, v.Scoped s.store) : Sound ScopedResult (newList items s) :=
  ⟨hst.newList fun v hv => hi v (by simpa using hv), trivial⟩

lemma sound_newRecord (hst : s.store.Scoped) {fields : List (String × Value)}
    (hf : ∀ field ∈ fields, field.2.Scoped s.store) : Sound ScopedResult (newRecord fields s) :=
  ⟨hst.newRecord fun _ _ hx => hf _ (Table.mem_of_find?_ofList hx), trivial⟩

/-- A function has the invariant as soon as the names of its check are in scope. -/
lemma sound_newFunction (hst : s.store.Scoped) (name : String) {arms : List Arm}
    (harms : Block.scopedArms visible arms = true) :
    Sound (fun f t => t.store.Scoped ∧
        ∀ st : Store, (∀ x ∈ visible, st.Sees t.scope x) → f.Scoped st)
      (newFunction name arms s) :=
  ⟨hst.nextId _, fun _ hsees => ⟨visible, hsees, harms⟩⟩

/-- The parameters of a lambda are the keys of its shape. -/
lemma mem_keys_ofParams {params : List (String × Option TypeExpr)} {x : String}
    (h : x ∈ params.map Prod.fst) : x ∈ (Shape.ofParams params).keys := by
  have hcontains : (Shape.ofParams params).contains x = true := by
    rw [Shape.ofParams, Shape.ofFields, Table.contains_ofList, List.map_map, List.map_map]
    exact h
  exact (Table.find?_isSome _ x).mp hcontains

lemma sound_newLambda (hs : s.Ready visible) {params : List (String × Option TypeExpr)}
    {body : Block} (hbody : body.scopedIn (params.map Prod.fst ++ visible) = true) :
    Sound ScopedResult (newLambda params body s) := by
  refine ⟨hs.store.nextId _, params.map Prod.fst ++ visible, fun x hx => ?_, hbody⟩
  obtain hparam | hvisible := List.mem_append.mp hx
  · exact Or.inl (mem_keys_ofParams hparam)
  · exact Or.inr (hs.sees x hvisible)

/-! ### Operators and access -/

/-- A value that refers to nothing asks for nothing. -/
lemma Value.Scoped.of_isAtom {st : Store} {v : Value} (h : v.isAtom = true) : v.Scoped st := by
  cases v with
  | function f | lambda f => cases h
  | _ => trivial

/-- A field is stored, a variant of a group is a class. -/
lemma scoped_readField {st : Store} (hst : st.Scoped) {v w : Value} {name : String} {span : Span}
    (h : readField st v name span = .ok w) : w.Scoped st := by
  obtain hw | ⟨g, c, -, -, rfl⟩ := holds_of_readField h
  · exact hst w hw
  · trivial

/-! ### Arguments of calls -/

lemma sound_construct (hst : s.store.Scoped) (c : Class) (argument : Value) (span : Span) :
    Sound ScopedResult (construct c argument span s) := by
  have hspan : Site.place span ∈ .place span :: c.shape.sites := List.mem_cons_self
  refine sound_except_bind (blames_expectRecord hspan argument) fun r _ => ?_
  have hblames := blames_instantiate s.types s.store (List.subset_cons_self _ _) r hspan
  refine sound_except hblames fun v hv => ⟨hst, ?_⟩
  obtain ⟨_, -, hv⟩ := exists_eq_ok_of_bind hv
  cases hv
  trivial

/-- A native function gives no function, and what it pushes is a field of its argument. -/
lemma sound_native (hst : s.store.Scoped) (f : Native) (argument : Value) (span : Span) :
    Sound ScopedResult (f.call argument span s) := by
  rw [f.call_eq_apply]
  have hspan : Site.place span ∈ [.place span] := List.mem_singleton_self _
  cases f with
  | length =>
      cases argument with
      | list r => exact ⟨hst, trivial⟩
      | string text => exact ⟨hst, trivial⟩
      | _ => exact id
  | toString => exact ⟨hst, trivial⟩
  | push =>
      refine sound_except_bind (blames_expectRecord hspan argument) fun r _ => ?_
      refine sound_except_bind (blames_pushField hspan _ _) fun target _ => ?_
      refine sound_except_bind (blames_pushField hspan _ _) fun item hitem => ?_
      refine sound_except_bind (blames_expectList hspan target) fun list _ => ?_
      exact ⟨hst.append (hst item (holds_of_pushField hitem)), trivial⟩
  | floor =>
      refine sound_except_bind (blames_expectNumber hspan argument) fun x _ => ?_
      exact ⟨hst, trivial⟩

/-- The frame of a lambda's parameters binds them all, to fields of the argument. -/
lemma sound_bindParams (hst : s.store.Scoped) (f : Lambda) (argument : Value) (span : Span) :
    Sound (fun params t => t.store.Scoped ∧
        (∀ x v, params.find? x = some v → v.Scoped t.store) ∧
        ∀ x ∈ f.params.keys, params.contains x = true)
      (f.bindParams argument span s) := by
  cases argument with
  | record r =>
      have hspan : Site.place span ∈ .place span :: f.params.sites := List.mem_cons_self
      have hblames := blames_check s.types s.store (List.subset_cons_self (.place span) f.params.sites)
        (s.store.record r) "function argument" hspan
      refine sound_except_bind hblames fun _ hcheck => ?_
      refine ⟨hst, fun x v hv => hst v (.record r x hv), fun x hx => ?_⟩
      rw [Shape.contains_eq_of_check hcheck]
      exact (Table.find?_isSome f.params x).mpr hx
  | _ => exact id

/-! ### Matches -/

/-- Each alternative may run where the names `visible` are in scope, in a frame that binds what its
pattern makes visible. -/
def AlternativesSound (visible : List String) (alternatives : List (Expr × (Frame → Eval Value))) :
    Prop :=
  ∀ alternative ∈ alternatives, ∀ (bindings : Frame) (s : State), s.Ready visible →
    (∀ x ∈ Pattern.visible alternative.1, bindings.contains x = true) →
    (∀ x v, bindings.find? x = some v → v.Scoped s.store) →
    Sound ScopedResult (alternative.2 bindings s)

/-- The alternative chosen finds the names of its pattern bound, to subvalues of the value matched. -/
lemma sound_choose (hs : s.Ready visible) {v : Value} (hv : v.Scoped s.store)
    {alternatives : List (Expr × (Frame → Eval Value))}
    (h : AlternativesSound visible alternatives) (span : Span) :
    Sound ScopedResult (choose v alternatives span s) := by
  have hsites : ∀ a ∈ alternatives, a.1.sites ⊆ alternatives.flatMap fun a => a.1.sites :=
    fun a hmem site hsite => List.mem_flatMap.mpr ⟨a, hmem, hsite⟩
  have hblames := blames_first? s.types s.store v hsites
  rw [choose_apply]
  rcases hfirst : Pattern.first? s.types s.store v alternatives with e | _ | ⟨body, bindings⟩
  · exact (hblames e hfirst).not_isUnresolved
  · exact id
  · obtain ⟨p, hmem, hmatch⟩ := Pattern.exists_of_first? hfirst
    refine h (p, body) hmem (.ofList bindings) s hs (fun x hx => ?_) fun x w hw => ?_
    · exact (Table.contains_ofList bindings x).mpr (Pattern.mem_of_mem_visible hmatch hx)
    · exact Pattern.scoped_of_match? hs.store hv hmatch _ (Table.mem_of_find?_ofList hw)

end

end RecordLang
