import RecordLang.Proofs.Errors
import RecordLang.Proofs.Operands
import RecordLang.Proofs.Validity.Invariant

/-!
Steps of evaluation that keep states valid.

An outcome is safe if it leaves a valid state behind, however evaluation ended: a program that fails is
followed by others, which start in the state that it left. Values that are handed over are valid, and a
failure points to a site of the program text.

* `Safe`: a safe outcome, with a condition on the result.
* `Safe.bind`, `Safe.withFrame`, `Safe.withScope`, `Safe.recordingCall`: how outcomes are put together.
* `safe_define`, `safe_construct`, `safe_choose` and others: the steps.
-/

namespace RecordLang

/-! ### Safe outcomes -/

/-- The causes that a program can bring about. The remaining one is for hosts. -/
def Cause.IsProgram : Cause → Prop
  | .unresolved _ => False
  | _ => True

lemma Cause.IsData.isProgram {cause : Cause} (h : cause.IsData) : cause.IsProgram := by
  cases cause with
  | unresolved message => exact h
  | _ => trivial

/-- A `return` hands over a valid value, and a failure points to a site. -/
def Interrupt.Allowed (sites : List Site) (t : State) : Interrupt → Prop
  | .returned v => v.Valid sites t.store
  | .failed e => e.PointsInto sites Cause.IsProgram

/-- The outcome leaves a valid state, and is a result with the property `P` or an allowed interrupt. -/
def Safe {ε α : Type} [Interrupts ε] (sites : List Site) (P : α → State → Prop) :
    EStateM.Result ε State α → Prop
  | .ok a t => t.Valid sites ∧ P a t
  | .error e t => t.Valid sites ∧ (Interrupts.toInterrupt e).Allowed sites t

/-- The result is a valid value. -/
def ValidResult (sites : List Site) (v : Value) (t : State) : Prop :=
  v.Valid sites t.store

/-- Nothing is asked of the result. -/
def AnyResult {α : Type} (_ : α) (_ : State) : Prop :=
  True

section

variable {sites : List Site} {ε α β : Type} [Interrupts ε] {P : α → State → Prop}
  {Q : β → State → Prop} {s : State}

/-- The second action starts where the first one led. -/
lemma Safe.bind {names : List String} {x : EStateM ε State α} {f : α → EStateM ε State β}
    (hx : Safe sites P (x s)) (he : HasEffect names x)
    (hf : ∀ a t, x s = .ok a t → Effect names s none t → t.Valid sites → P a t →
      Safe sites Q (f a t)) :
    Safe sites Q ((x >>= f) s) := by
  have heffect := he s
  rw [bind_apply]
  cases h : x s with
  | ok a t =>
      rw [h] at heffect hx
      exact hf a t h heffect hx.1 hx.2
  | error e t =>
      rw [h] at hx
      exact hx

lemma Safe.discard {x : EStateM ε State α} (h : Safe sites P (x s)) :
    Safe sites AnyResult (Functor.discard x s) := by
  rw [discard_apply]
  cases hs : x s with
  | ok a t =>
      rw [hs] at h
      exact ⟨h.1, trivial⟩
  | error e t =>
      rw [hs] at h
      exact h

end

section

variable {sites : List Site} {α : Type} {P : α → State → Prop} {s : State}

lemma Safe.lift {x : Run α} (h : Safe sites P (x s)) : Safe sites P ((liftM x : Eval α) s) := by
  rw [lift_apply]
  cases hs : x s <;> rw [hs] at h <;> exact h

variable {x : Eval Value}

/-- The frame is left again, and the store is what the body made of it. -/
lemma Safe.withFrame {names : List String} {bindings : Frame}
    (h : Safe sites (ValidResult sites) (x (s.enterFrame bindings))) (he : HasEffect names x) :
    Safe sites (ValidResult sites) (withFrame bindings x s) := by
  rw [withFrame_apply he]
  cases hs : x (s.enterFrame bindings) with
  | ok v t | error i t =>
      rw [hs] at h
      exact ⟨h.1.of_eq rfl rfl, h.2⟩

lemma Safe.withScope {scope : Scope} (h : Safe sites (ValidResult sites) (x { s with scope })) :
    Safe sites (ValidResult sites) (withScope scope x s) := by
  rw [withScope_apply]
  cases hs : x { s with scope } with
  | ok v t | error i t =>
      rw [hs] at h
      exact ⟨h.1.of_eq rfl rfl, h.2⟩

lemma Safe.settle (h : Safe sites (ValidResult sites) (x s)) :
    Safe sites (ValidResult sites) (settle x s) := by
  rw [settle_apply]
  rcases hs : x s with ⟨v, t⟩ | ⟨v | e, t⟩ <;> rw [hs] at h <;> exact h

lemma Safe.recordingCall {body : Run Value} {callee : String} {span : Span}
    (h : Safe sites (ValidResult sites) (body { s with calls := ⟨callee, some span⟩ :: s.calls }))
    (he : HasEffect [] body) : Safe sites (ValidResult sites) (recordingCall callee span body s) := by
  rw [recordingCall_apply he]
  cases hs : body { s with calls := ⟨callee, some span⟩ :: s.calls } with
  | ok v t =>
      rw [hs] at h
      exact ⟨h.1.of_eq rfl rfl, h.2⟩
  | error e t =>
      rw [hs] at h
      exact h

end

section

variable {sites : List Site} {s : State} {span : Span}

/-- A fault at a place of the program text. -/
lemma safe_throw {α : Type} {P : α → State → Prop} (hs : s.Valid sites) (hspan : .place span ∈ sites)
    {cause : Cause} (h : cause.IsProgram) :
    Safe sites P ((throw (.fault cause (some span)) : Run α) s) :=
  ⟨hs, h, hspan⟩

/-- A pure computation that blames the program text for its errors. -/
lemma safe_except {α : Type} {P : α → State → Prop} {x : Except Error α} (hs : s.Valid sites)
    (hx : Blames sites x) (h : ∀ a, x = .ok a → P a s) : Safe sites P ((liftM x : Run α) s) := by
  cases x with
  | ok a => exact ⟨hs, h a rfl⟩
  | error e => exact ⟨hs, (hx e rfl).mono fun _ h => h.isProgram⟩

/-- A pure computation in front: the rest starts in the same state. -/
lemma safe_except_bind {α β : Type} {Q : β → State → Prop} {x : Except Error α} {f : α → Run β}
    (hs : s.Valid sites) (hx : Blames sites x) (hf : ∀ a, x = .ok a → Safe sites Q (f a s)) :
    Safe sites Q (((liftM x : Run α) >>= f) s) := by
  cases x with
  | ok a => exact hf a rfl
  | error e => exact ⟨hs, (hx e rfl).mono fun _ h => h.isProgram⟩

/-! ### Names -/

/-- What a name stands for is held. -/
lemma safe_getName (hs : s.Valid sites) (hspan : .place span ∈ sites) (name : String) :
    Safe sites (ValidResult sites) (getName name (some span) s) := by
  rw [getName, get_bind_apply]
  cases hv : s.lookup name with
  | some v => exact ⟨hs, hs.held v (Store.holds_of_lookup hv)⟩
  | none => exact safe_throw hs hspan trivial

lemma safe_assign (hs : s.Valid sites) (hspan : .place span ∈ sites) (name : String) {v : Value}
    (hv : v.Valid sites s.store) : Safe sites AnyResult (assign name v (some span) s) := by
  rw [assign, get_bind_apply]
  split
  · exact ⟨hs.bindTop name hv, trivial⟩
  · exact safe_throw hs hspan trivial

lemma safe_define (hs : s.Valid sites) (hspan : .place span ∈ sites) (policy : Redefinition)
    (name : String) {v : Value} (hv : v.Valid sites s.store) :
    Safe sites AnyResult (define policy name v span s) := by
  have hlogged : ∀ parts : List String, ((s.log parts).bindTop name v).Valid sites :=
    fun parts => State.Valid.bindTop (s := s.log parts) (hs.of_eq rfl rfl) name hv
  rw [define, get_bind_apply]
  split
  · cases policy with
    | strict => exact safe_throw (α := PUnit) hs hspan trivial
    | permissive => exact ⟨hlogged _, trivial⟩
  · exact ⟨hs.bindTop name hv, trivial⟩

/-! ### Types -/

/-- What a type path stands for is registered, or a variant of what is. -/
lemma valid_of_resolve (hs : s.Valid sites) {path : TypePath} {entry : TypeEntry}
    (h : s.types.resolve path = .ok entry) : entry.toValue.Valid sites s.store := by
  rw [Registry.resolve] at h
  split at h
  · next name _ =>
      split at h
      · next entry' hentry =>
          cases h
          exact hs.registered name entry hentry
      · cases h
  · next group variant _ =>
      split at h
      · next c hc =>
          cases h
          rw [Registry.resolveVariant] at hc
          split at hc
          · next g hg =>
              split at hc
              · next c' hvariant =>
                  cases hc
                  have hgroup := hs.registered group (.ofGroup g) hg
                  exact hgroup variant c hvariant
              · cases hc
          · cases hc
          · cases hc
      · cases h
  · cases h

lemma safe_resolve (hs : s.Valid sites) {path : TypePath} (hpath : path.sites ⊆ sites) :
    Safe sites (fun entry t => entry.toValue.Valid sites t.store) (resolve path s) :=
  safe_except hs (blames_resolve s.types hpath) fun _ h => valid_of_resolve hs h

/-- A new class keeps the sites of its declaration. -/
lemma valid_newClass {decl : ClassDecl} (h : decl.sites ⊆ sites) (st : Store) (group : Option String) :
    (st.newClass decl group).1.shape.sites ⊆ sites := by
  refine Shape.sites_ofFields fun field hfield => ?_
  refine List.Subset.trans ?_ h
  exact fun site hsite => List.mem_cons_of_mem _ (List.mem_flatMap.mpr ⟨field, hfield, hsite⟩)

/-- The variants of a new group keep the sites of their declarations. -/
lemma valid_newVariants {group : String} {decls : List ClassDecl}
    (h : ∀ decl ∈ decls, decl.sites ⊆ sites) (st : Store) :
    ∀ variant ∈ (Store.newVariants group st decls).1, variant.2.shape.sites ⊆ sites := by
  induction decls generalizing st with
  | nil => simp [Store.newVariants]
  | cons decl rest ih =>
      obtain ⟨hdecl, hrest⟩ := List.forall_mem_cons.mp h
      simp only [Store.newVariants, List.forall_mem_cons]
      exact ⟨valid_newClass hdecl st (some group), ih hrest _⟩

lemma valid_newGroup {decl : GroupDecl} (h : decl.sites ⊆ sites) (st st' : Store) :
    (Value.ofGroup (st.newGroup decl).1).Valid sites st' := by
  intro x c hx
  have hdecls : ∀ variant ∈ decl.variants, variant.sites ⊆ sites := by
    intro variant hvariant site hsite
    exact h (List.mem_cons_of_mem _ (List.mem_flatMap.mpr ⟨variant, hvariant, hsite⟩))
  exact valid_newVariants hdecls st _ (Table.mem_of_find?_ofList hx)

lemma State.Valid.newGroup (hs : s.Valid sites) (decl : GroupDecl) :
    State.Valid sites { s with store := (s.store.newGroup decl).2 } := by
  rw [newGroup_snd]
  exact hs.nextId _

/-- The definition of a class or group: the new thing is bound and registered. -/
lemma safe_defineType {α : Type} {add : Store → α × Store} (hspan : .place span ∈ sites)
    (policy : Redefinition) (name : String) (entry : α → TypeEntry)
    (hmade : Safe sites (fun a t => (entry a).toValue.Valid sites t.store) (make add s))
    (heffect : HasEffect [] (make add)) :
    Safe sites AnyResult
      ((do
        let a ← make add
        define policy name (entry a).toValue span
        discard (register name (entry a)) : Eval Unit) s) := by
  refine hmade.lift.bind heffect.lift fun a t _ _ ht hentry => ?_
  have hname : name ∈ [name] := List.mem_singleton_self name
  refine (safe_define ht hspan policy name hentry).lift.bind
    (hasEffect_define policy _ span hname).lift fun _ u _ hu hvalid _ => ?_
  exact ⟨hvalid.register name (ht.after hu hentry), trivial⟩

/-! ### New things -/

lemma safe_newList (hs : s.Valid sites) {items : List Value}
    (hi : ∀ v ∈ items, v.Valid sites s.store) :
    Safe sites (ValidResult sites) (newList items s) :=
  ⟨hs.newList fun v hv => hi v (by simpa using hv), trivial⟩

lemma safe_newRecord (hs : s.Valid sites) {fields : List (String × Value)}
    (hf : ∀ field ∈ fields, field.2.Valid sites s.store) :
    Safe sites (ValidResult sites) (newRecord fields s) := by
  refine ⟨hs.newRecord fun x v hv => hf _ (Table.mem_of_find?_ofList hv), ?_⟩
  show s.store.records.size < (s.store.records.push _).size
  rw [Array.size_push]
  omega

lemma safe_newFunction (hs : s.Valid sites) (name : String) {arms : List Arm}
    (harms : Block.armSites arms ⊆ sites) :
    Safe sites (ValidResult sites) (newFunction name arms s) :=
  ⟨hs.nextId _, harms⟩

lemma safe_newLambda (hs : s.Valid sites) {params : List (String × Option TypeExpr)} {body : Block}
    (hparams : paramSites params ⊆ sites) (hbody : body.sites ⊆ sites) :
    Safe sites (ValidResult sites) (newLambda params body s) :=
  ⟨hs.nextId _, List.Subset.trans (Shape.sites_ofParams params) hparams, hbody⟩

/-! ### Calls -/

/-- A value that refers to nothing is valid. -/
lemma Value.Valid.of_isAtom {st : Store} {v : Value} (h : v.isAtom = true) : v.Valid sites st := by
  cases v with
  | number x | string text | boolean b | nil | native f => trivial
  | _ => cases h

/-- An object that is made fits its class, since it has just been checked. -/
lemma safe_construct (hs : s.Valid sites) (hspan : .place span ∈ sites) {c : Class}
    (hc : c.shape.sites ⊆ sites) {argument : Value} (hargument : argument.Valid sites s.store) :
    Safe sites (ValidResult sites) (construct c argument span s) := by
  refine safe_except_bind hs (blames_expectRecord hspan argument) fun r hr => ?_
  have hrecord : s.store.HasRecord r := by
    cases argument with
    | record r' =>
        cases hr
        exact hargument
    | _ => cases hr
  refine safe_except hs (blames_instantiate s.types s.store hc r hspan) fun v hv => ?_
  obtain ⟨_, hcheck, hv⟩ := exists_eq_ok_of_bind hv
  cases hv
  refine ⟨hrecord, Class.fits_of_check (fun w hw => (hs.held w hw).exists) (fun x w hw => ?_) hcheck⟩
  exact (hs.held w (.record r x hw)).exists

/-- A native function gives no new value but numbers and strings, and pushes what is held. -/
lemma safe_native (hs : s.Valid sites) (hspan : .place span ∈ sites) (f : Native) (argument : Value) :
    Safe sites (ValidResult sites) (f.call argument span s) := by
  rw [f.call_eq_apply]
  cases f with
  | length =>
      cases argument with
      | list r => exact ⟨hs, trivial⟩
      | string text => exact ⟨hs, trivial⟩
      | _ => exact safe_throw hs hspan trivial
  | toString => exact ⟨hs, trivial⟩
  | push =>
      refine safe_except_bind hs (blames_expectRecord hspan argument) fun r _ => ?_
      refine safe_except_bind hs (blames_pushField hspan _ _) fun target _ => ?_
      refine safe_except_bind hs (blames_pushField hspan _ _) fun item hitem => ?_
      refine safe_except_bind hs (blames_expectList hspan target) fun list _ => ?_
      exact ⟨hs.append list (hs.held item (holds_of_pushField hitem)), trivial⟩
  | floor =>
      refine safe_except_bind hs (blames_expectNumber hspan argument) fun x _ => ?_
      exact ⟨hs, trivial⟩

/-- The parameters of a lambda are fields of the argument, so they are held. -/
lemma safe_bindParams (hs : s.Valid sites) (hspan : .place span ∈ sites) {f : Lambda}
    (hf : f.params.sites ⊆ sites) (argument : Value) :
    Safe sites (fun params t => ∀ x v, params.find? x = some v → v.Valid sites t.store)
      (f.bindParams argument span s) := by
  cases argument with
  | record r =>
      refine safe_except_bind hs (blames_check s.types s.store hf _ _ hspan) fun _ _ => ?_
      exact ⟨hs, fun x v hv => hs.held v (.record r x hv)⟩
  | _ => exact safe_throw hs hspan trivial

/-- A match: the block that is chosen starts in a frame of valid values. -/
lemma safe_choose (hs : s.Valid sites) (hspan : .place span ∈ sites) {v : Value}
    (hv : v.Valid sites s.store) {arms : List Arm} (harms : Block.armSites arms ⊆ sites) {env : Env}
    (henv : env.CallsHaveEffect)
    (hblock : ∀ body bindings, Pattern.first? s.types s.store v arms = .ok (some (body, bindings)) →
      body.sites ⊆ sites → (s.enterFrame (.ofList bindings)).Valid sites →
      Safe sites (ValidResult sites) (body.eval env (s.enterFrame (.ofList bindings)))) :
    Safe sites (ValidResult sites) (choose v (alternativesOf (Block.eval env) arms) span s) := by
  have hsites := Block.armSites_subset_iff.mp harms
  have hblames := blames_first? s.types s.store v fun arm hmem => (hsites arm hmem).1
  rw [choose_alternativesOf_apply]
  rcases hfirst : Pattern.first? s.types s.store v arms with e | _ | ⟨body, bindings⟩
  · exact ⟨hs, (hblames e hfirst).mono fun _ h => h.isProgram⟩
  · exact ⟨hs, trivial, hspan⟩
  · obtain ⟨pattern, hmem, hmatch⟩ := Pattern.exists_of_first? hfirst
    have hframe : (s.enterFrame (.ofList bindings)).Valid sites := by
      refine hs.enterFrame fun x w hw => ?_
      obtain heq | hheld := Pattern.holds_of_match? hmatch _ (Table.mem_of_find?_ofList hw)
      · have heq : w = v := heq
        rw [heq]
        exact hv
      · exact hs.held w hheld
    exact (hblock body bindings hfirst (hsites _ hmem).2 hframe).withFrame (Block.eval_effect henv body)

end

end RecordLang
