import RecordLang.Proofs.Coupling
import RecordLang.Proofs.Operands

/-!
Steps of evaluation, taken by two runs at once.

In states that are in step a name stands for the same value, a new thing gets the same reference, and
what is written is written in both. So every step is coupled with itself. The steps of a call that come
before its body do not even look at the scope.

* `Coupling.InStep.lookup_eq`, `Coupling.InStep.bindTop`: names in two runs.
* `coupled_getName`, `coupled_define`, `coupled_defineType`, `coupled_newRecord`, `coupled_choose` and
  others: the steps of expressions and statements.
* `coupled_construct`, `coupled_bindParams`, `coupled_native`: the steps of calls.
-/

namespace RecordLang

/-! ### States -/

namespace Coupling

variable {k : Coupling} {s t : State}

/-- A name stands for the same in both runs: all frames in scope are visible. -/
lemma InStep.lookup_eq (h : k.InStep s t) (x : String) : t.lookup x = s.lookup x := by
  rw [State.lookup, State.lookup, h.scope]
  refine Store.lookup_congr fun r hr => ?_
  rw [h.store.frame r (k.visible r (h.hasScope r hr))]

lemma InStep.inTop_eq (h : k.InStep s t) (x : String) : t.inTop x = s.inTop x := by
  have htop : s.scope.top ∈ k.region.frames := h.hasScope _ s.scope.top_mem_frames
  rw [State.inTop, State.inTop, h.scope, h.store.frame _ (k.visible _ htop)]

/-- Both runs bind a name in the innermost frame. -/
lemma InStep.bindTop (h : k.InStep s t) (name : String) {v : Value} (hv : k.region.Has v) :
    k.InStep (s.bindTop name v) (t.bindTop name v) := by
  have hstore := h.store.bind s.scope.top name v
  refine ⟨⟨?_, h.closed.bind _ name hv, h.types, h.console, h.calls⟩, h.scope, h.hasScope⟩
  rwa [State.bindTop, State.bindTop, h.scope]

lemma InStep.log (h : k.InStep s t) (parts : List String) : k.InStep (s.log parts) (t.log parts) :=
  ⟨⟨h.store, h.closed, h.types, congrArg (·.log parts) h.console, h.calls⟩, h.scope, h.hasScope⟩

lemma InStep.register (h : k.InStep s t) (name : String) (entry : TypeEntry) :
    k.InStep { s with types := s.types.insert name entry }
      { t with types := t.types.insert name entry } :=
  ⟨⟨h.store, h.closed, congrArg (·.insert name entry) h.types, h.console, h.calls⟩, h.scope,
    h.hasScope⟩

/-- Other stores that agree and are closed. -/
lemma InStep.setStore (h : k.InStep s t) {st st' : Store} (hagree : st.AgreesOutside k.hidden st')
    (hclosed : k.region.Closed st) : k.InStep { s with store := st } { t with store := st' } :=
  ⟨⟨hagree, hclosed, h.types, h.console, h.calls⟩, h.scope, h.hasScope⟩

end Coupling

/-! ### Names -/

section

variable {k : Coupling}

lemma coupled_getName (name : String) (span : Option Span) :
    Coupled k k.InStep k.region.Has (getName name span) (getName name span) := by
  intro s t hst
  rw [getName, get_bind_apply, get_bind_apply, hst.lookup_eq]
  cases hv : s.lookup name with
  | some v => exact .ok (hst.closed.has_lookup hst.hasScope hv) hst
  | none => exact .error (.failed (k.same_refl _ trivial)) hst

lemma coupled_assign (name : String) {v : Value} (hv : k.region.Has v) (span : Option Span) :
    Coupled k k.InStep (fun _ => True) (assign name v span) (assign name v span) := by
  intro s t hst
  rw [assign, get_bind_apply, get_bind_apply, hst.lookup_eq]
  split
  · exact .ok trivial (hst.bindTop name hv)
  · exact .error (.failed (k.same_refl _ trivial)) hst

/-- With the same policy names are defined alike, if clashes count as the same. -/
lemma coupled_define (policy : Redefinition) (name : String) {v : Value} (hv : k.region.Has v)
    (span : Span) (hsame : k.same (.fault (.redefinition name) (some span))
      (.fault (.redefinition name) (some span))) :
    Coupled k k.InStep (fun _ => True) (define policy name v span) (define policy name v span) := by
  intro s t hst
  rw [define, get_bind_apply, get_bind_apply, hst.inTop_eq]
  split
  · cases policy with
    | strict => exact .error (.failed hsame) hst
    | permissive => exact .ok trivial ((hst.log _).bindTop name hv)
  · exact .ok trivial (hst.bindTop name hv)

/-! ### Types -/

lemma coupled_resolve (path : TypePath) :
    Coupled k k.InStep (fun _ => True) (resolve path) (resolve path) :=
  coupled_read (fun s => blames_resolve s.types (List.Subset.refl path.sites))
    (fun _ _ hst => by rw [hst.types]) fun _ _ _ _ _ => trivial

lemma coupled_register (name : String) (entry : TypeEntry) :
    Coupled k k.InStep (fun _ => True) (register name entry) (register name entry) := by
  intro s t hst
  have hold : t.types.find? name = s.types.find? name := by rw [hst.types]
  show k.Corresponds k.InStep _ (.ok (s.types.find? name) _) (.ok (t.types.find? name) _)
  rw [hold]
  exact .ok trivial (hst.register name entry)

/-! ### New things -/

/-- An operation that adds the same thing to stores that agree. -/
lemma coupled_make {α : Type} {P : α → Prop} {add : Store → α × Store}
    (h : ∀ st st', st.AgreesOutside k.hidden st' → k.region.Closed st →
      (add st').1 = (add st).1 ∧ P (add st).1 ∧
        (add st).2.AgreesOutside k.hidden (add st').2 ∧ k.region.Closed (add st).2) :
    Coupled k k.InStep P (make add) (make add) := by
  intro s t hst
  obtain ⟨heq, hP, hagree, hclosed⟩ := h s.store t.store hst.store hst.closed
  show k.Corresponds k.InStep P (.ok (add s.store).1 _) (.ok (add t.store).1 _)
  rw [heq]
  exact .ok hP (hst.setStore hagree hclosed)

lemma coupled_newList {items : List Value} (h : ∀ v ∈ items, k.region.Has v) :
    Coupled k k.InStep k.region.Has (newList items) (newList items) := by
  have hmake : Coupled k k.InStep (· ∈ k.region.lists) (make (·.newList items.toArray))
      (make (·.newList items.toArray)) := by
    refine coupled_make fun st st' hagree hclosed => ⟨?_, ?_, hagree.newList _, ?_⟩
    · simp only [Store.newList, hagree.lists]
    · exact hclosed.newList_mem _ le_rfl
    · exact hclosed.newList fun v hv => h v (by simpa using hv)
  exact hmake.bindPure fun _ hr => hr

lemma coupled_newRecord {fields : List (String × Value)} (h : ∀ field ∈ fields, k.region.Has field.2) :
    Coupled k k.InStep k.region.Has (newRecord fields) (newRecord fields) := by
  have hmake : Coupled k k.InStep (· ∈ k.region.records) (make (·.newRecord (.ofList fields)))
      (make (·.newRecord (.ofList fields))) := by
    refine coupled_make fun st st' hagree hclosed => ⟨?_, ?_, hagree.newRecord _, ?_⟩
    · simp only [Store.newRecord, hagree.records]
    · exact hclosed.newRecord_mem _ le_rfl
    · exact hclosed.newRecord (Region.hasTable_ofList h)
  exact hmake.bindPure fun _ hr => hr

/-- An operation that takes new numbers only, as many in both stores. -/
lemma coupled_makeNumbered {α : Type} {P : α → Prop} {add : Store → α × Store} (count : Nat)
    (hsnd : ∀ st, (add st).2 = { st with nextId := st.nextId + count })
    (hfst : ∀ st st', st'.nextId = st.nextId → (add st').1 = (add st).1) (hP : ∀ st, P (add st).1) :
    Coupled k k.InStep P (make add) (make add) := by
  refine coupled_make fun st st' hagree hclosed => ⟨hfst _ _ hagree.nextId, hP st, ?_, ?_⟩
  · rw [hsnd, hsnd, hagree.nextId]
    exact hagree.setNextId _
  · rw [hsnd]
    exact hclosed.nextId _

lemma coupled_newId : Coupled k k.InStep (fun _ => True) (make (·.newId)) (make (·.newId)) :=
  coupled_makeNumbered 1 (fun _ => rfl) (fun _ _ h => h) fun _ => trivial

lemma coupled_newClass (decl : ClassDecl) (group : Option String) :
    Coupled k k.InStep (fun _ => True) (make (·.newClass decl group)) (make (·.newClass decl group)) := by
  refine coupled_makeNumbered 1 (fun _ => rfl) (fun st st' h => ?_) fun _ => trivial
  simp only [Store.newClass, Store.newId, h]

/-- The variants of a group depend on the numbers they get only. -/
lemma newVariants_fst {st st' : Store} (h : st'.nextId = st.nextId) (group : String)
    (decls : List ClassDecl) :
    (Store.newVariants group st' decls).1 = (Store.newVariants group st decls).1 := by
  induction decls generalizing st st' with
  | nil => rfl
  | cons decl rest ih =>
      have hrest := @ih { st with nextId := st.nextId + 1 } { st' with nextId := st'.nextId + 1 }
        (congrArg (· + 1) h)
      simp only [Store.newVariants, Store.newClass, Store.newId, h] at hrest ⊢
      rw [hrest]

lemma coupled_newGroup (decl : GroupDecl) :
    Coupled k k.InStep (fun _ => True) (make (·.newGroup decl)) (make (·.newGroup decl)) := by
  refine coupled_makeNumbered (decl.variants.length + 1) (newGroup_snd decl)
    (fun st st' h => ?_) fun _ => trivial
  simp only [Store.newGroup, Store.newId, newVariants_fst h, newVariants_snd, h]

/-- A new function, which keeps the scope of both runs. -/
lemma coupled_newClosure (closure : Nat → Scope → Value)
    (h : ∀ id scope, k.region.HasScope scope → k.region.Has (closure id scope)) :
    Coupled k k.InStep k.region.Has
      (do
        let id ← make (·.newId)
        return closure id (← get).scope : Run Value)
      (do
        let id ← make (·.newId)
        return closure id (← get).scope) := by
  refine coupled_newId.bind (fun id _ s t hst => ?_) fun _ _ => List.prefix_rfl
  rw [get_bind_apply, get_bind_apply, hst.scope]
  exact .ok (h id s.scope hst.hasScope) hst

lemma coupled_newFunction (name : String) (arms : List Arm) :
    Coupled k k.InStep k.region.Has (newFunction name arms) (newFunction name arms) :=
  coupled_newClosure (fun id scope => .function { id, name, arms, scope }) fun _ _ hscope => hscope

lemma coupled_newLambda (params : List (String × Option TypeExpr)) (body : Block) :
    Coupled k k.InStep k.region.Has (newLambda params body) (newLambda params body) :=
  coupled_newClosure (fun id scope => .lambda { id, params := .ofParams params, body, scope })
    fun _ _ hscope => hscope

/-- The definition of a class or group, given how names are defined. -/
lemma coupled_defineType {α : Type} {add : Store → α × Store} {policy policy' : Redefinition}
    (name : String) (entry : α → TypeEntry) (span : Span)
    (hmake : Coupled k k.InStep (fun _ => True) (make add) (make add))
    (hdefine : ∀ v, k.region.Has v → Coupled k k.InStep (fun _ => True)
      (define policy name v span) (define policy' name v span)) :
    Coupled k k.InStep (fun _ => True)
      (do
        let a ← make add
        define policy name (entry a).toValue span
        discard (register name (entry a)) : Eval Unit)
      (do
        let a ← make add
        define policy' name (entry a).toValue span
        discard (register name (entry a))) := by
  have hname : name ∈ [name] := List.mem_singleton_self name
  have hregister : ∀ a, HasEffect [name] (Functor.discard (liftM (register name (entry a)) : Eval _)) :=
    fun a => (hasEffect_register name (entry a)).lift.discard
  have hdefined : ∀ a, HasEffect [name] (do
      define policy' name (entry a).toValue span
      discard (register name (entry a)) : Eval Unit) :=
    fun a => (hasEffect_define policy' _ span hname).lift.bind fun _ => hregister a
  refine hmake.lift.bind (fun a _ => ?_) fun a => (hdefined a).addsLines
  refine (hdefine _ (Region.has_toValue (entry a))).lift.bind (fun _ _ => ?_) fun _ =>
    (hregister a).addsLines
  exact (coupled_register name (entry a)).lift.discard

/-! ### Matches -/

/-- A match chooses the same arm in both runs, with the same bindings. -/
lemma coupled_choose {v : Value} (hv : k.region.Has v) {arms : List Arm} {block block' : Block → Eval Value}
    (span : Span) {names names' : Block → List String}
    (hblock : ∀ arm ∈ arms, Coupled k k.InStep k.region.Has (block arm.2) (block' arm.2))
    (heffect : ∀ b, HasEffect (names b) (block b)) (heffect' : ∀ b, HasEffect (names' b) (block' b)) :
    Coupled k k.InStep k.region.Has (choose v (alternativesOf block arms) span)
      (choose v (alternativesOf block' arms) span) := by
  intro s t hst
  have hread := hst.store.sameContainers
  rw [choose_alternativesOf_apply, choose_alternativesOf_apply, hst.types, hread.first?_eq,
    hread.text_eq]
  rcases hfirst : Pattern.first? s.types s.store v arms with e | _ | ⟨body, bindings⟩
  · have hblames : Blames (arms.flatMap (·.1.sites)) (Pattern.first? s.types s.store v arms) :=
      blames_first? s.types s.store v fun arm harm _ hsite => List.mem_flatMap.mpr ⟨arm, harm, hsite⟩
    exact .error (.failed (k.same_refl e (hblames e hfirst).isOrdinary)) hst
  · exact .error (.failed (k.same_refl _ trivial)) hst
  · obtain ⟨p, hmem, hmatch⟩ := Pattern.exists_of_first? hfirst
    have hb : k.region.HasTable (.ofList bindings) :=
      Region.hasTable_ofList (hst.closed.has_match? hv hmatch)
    exact (hblock (p, body) hmem).withFrame hb (heffect body) (heffect' body) s t hst

/-! ### Calls -/

/-- An object belongs to the region of its record. -/
lemma coupled_construct (c : Class) {argument : Value} (hargument : k.region.Has argument)
    (span : Span) :
    Coupled k k.Alike k.region.Has (construct c argument span) (construct c argument span) := by
  have hspan : Site.place span ∈ .place span :: c.shape.sites := List.mem_cons_self
  refine coupled_except_bind (blames_expectRecord hspan argument) fun r hr => coupled_read
    (fun s => blames_instantiate s.types s.store (List.subset_cons_self _ _) r hspan)
    (fun s t hst => ?_) fun s t v _ hv => ?_
  · rw [hst.types, hst.store.sameContainers.instantiate_eq]
  · obtain ⟨_, -, hv⟩ := exists_eq_ok_of_bind hv
    cases hv
    cases argument with
    | record r' =>
        cases hr
        exact hargument
    | _ => cases hr

/-- The parameters of a lambda are the fields of a record of the region. -/
lemma coupled_bindParams (f : Lambda) {argument : Value} (hargument : k.region.Has argument)
    (span : Span) :
    Coupled k k.Alike k.region.HasTable (f.bindParams argument span) (f.bindParams argument span) := by
  cases argument with
  | record r =>
      intro s t hst
      have hread := hst.store.sameContainers
      rw [Lambda.bindParams, get_bind_apply, get_bind_apply, hst.types, hread.record_eq, hread.check_eq]
      have hspan : Site.place span ∈ .place span :: f.params.sites := List.mem_cons_self
      have hcheck := blames_check s.types s.store (List.subset_cons_self (.place span) f.params.sites)
        (s.store.record r) "function argument" hspan
      exact coupled_except_bind hcheck (fun _ _ => coupled_pure (hst.closed.record r hargument)) s t hst
  | _ => exact coupled_fault trivial

/-- A native function reads the same in both runs, and pushes what belongs to the region. -/
lemma coupled_native (f : Native) {argument : Value} (hargument : k.region.Has argument)
    (span : Span) :
    Coupled k k.Alike k.region.Has (f.call argument span) (f.call argument span) := by
  rw [f.call_eq_apply]
  have hspan : Site.place span ∈ [.place span] := List.mem_singleton_self _
  cases f with
  | length =>
      cases argument with
      | list r =>
          intro s t hst
          show k.Corresponds _ _ (.ok _ s) (.ok (Value.number (t.store.list r).size.toFloat) t)
          rw [hst.store.sameContainers.list_eq]
          exact .ok trivial hst
      | string text => exact coupled_pure trivial
      | _ => exact coupled_fault trivial
  | toString =>
      intro s t hst
      show k.Corresponds _ _ (.ok _ s) (.ok (Value.string (argument.text t.store)) t)
      rw [hst.store.sameContainers.text_eq]
      exact .ok trivial hst
  | push =>
      refine coupled_except_bind (blames_expectRecord hspan argument) fun r hr s t hst => ?_
      have hrecord : r ∈ k.region.records := by
        cases argument with
        | record r' =>
            cases hr
            exact hargument
        | _ => cases hr
      rw [get_bind_apply, get_bind_apply, hst.store.sameContainers.record_eq]
      refine coupled_except_bind (blames_pushField hspan _ _) (fun target htarget => ?_) s t hst
      refine coupled_except_bind (blames_pushField hspan _ _) fun item hitem => ?_
      refine coupled_except_bind (blames_expectList hspan target) fun list hlist u u' hu => ?_
      have htarget' := hst.closed.has_pushField hrecord htarget
      have hlist' : k.region.Has (.list list) := by
        cases target with
        | list list' =>
            cases hlist
            exact htarget'
        | _ => cases hlist
      have hitem' := hst.closed.has_pushField hrecord hitem
      exact .ok hlist' ⟨hu.store.append list item, hu.closed.append list hitem', hu.types, hu.console,
        hu.calls⟩
  | floor =>
      exact coupled_except_bind (blames_expectNumber hspan argument) fun x _ => coupled_pure trivial

end

end RecordLang
