import RecordLang.Proofs.Frames

/-!
Operations on scopes, in any order.

A host can work with scopes directly: enter and leave frames, bind and look up names, capture the scope
that is live, enter one that was captured before, and come back to one that was put aside on entering.
All these stacks share frames, and a name that is bound in a frame is seen through every stack that has
it. What holds them together is that all of them end in one base frame, which no operation takes away,
and that a frame is never handed out twice.

* `Session`: the live state, and the scopes that were captured or put aside.
* `ScopeOperation.run`: what one operation does, and `Session.afterAll` many of them.
* `ScopeOperation.after_cases`: the three ways in which an operation can change a session.
* `Session.Sound`: all stacks end in the first frame and have frames that exist.
* `Session.Sound.lookup_after`: through which stacks a binding is seen.
* `scope_operations_keep_base`: the main statement.
-/

namespace RecordLang

/-! ### Sessions -/

/-- What a host holds that works with scopes: the state with the live scope, the scopes it has captured,
and those that were put aside when it entered another one. -/
structure Session where
  state : State
  captured : List Scope := []
  saved : List Scope := []

namespace Session

/-- A session with a single frame that has the given bindings. -/
def ofGlobals (globals : Frame) : Session :=
  { state := .ofGlobals globals }

/-- All stacks of frames: the live one, those captured and those put aside. -/
def scopes (s : Session) : List Scope :=
  s.state.scope :: (s.captured ++ s.saved)

lemma mem_scopes {s : Session} {scope : Scope} :
    scope ∈ s.scopes ↔ scope = s.state.scope ∨ scope ∈ s.captured ∨ scope ∈ s.saved := by
  rw [scopes, List.mem_cons, List.mem_append]

/-- What a name stands for in the live scope. -/
def lookup (s : Session) (name : String) : Option Value :=
  s.state.lookup name

/-- Performs an action on the live state. -/
def act {α : Type} (x : Run α) (s : Session) : EStateM.Result Error Session Unit :=
  match x s.state with
  | .ok _ t => .ok () { s with state := t }
  | .error e t => .error e { s with state := t }

end Session

/-- An operation on scopes. Captured scopes and those put aside are named by the order in which they
came about. -/
inductive ScopeOperation where
  | push (seed : Option Frame)
  | pop
  | define (name : String) (v : Value)
  | set (name : String) (v : Value) (span : Option Span)
  | get (name : String) (span : Option Span)
  | lookup (name : String)
  | capture
  | enter (slot : Nat)
  | restore (slot : Nat)

namespace ScopeOperation

/-- Performs an operation. Looking up a name only reads. To enter a scope that was not captured, or to
come back to one that was not put aside, is to do nothing. -/
def run : ScopeOperation → Session → EStateM.Result Error Session Unit
  | .push seed, s => s.act (enterFrame (seed.getD .empty))
  | .pop, s => s.act leaveFrame
  | .define name v, s => s.act (bindTop name v)
  | .set name v span, s => s.act (assign name v span)
  | .get name span, s => s.act (getName name span)
  | .lookup _, s => .ok () s
  | .capture, s => .ok () { s with captured := s.captured ++ [s.state.scope] }
  | .enter slot, s =>
      match s.captured[slot]? with
      | none => .ok () s
      | some scope =>
          match enterScope scope s.state with
          | .ok old t => .ok () { s with state := t, saved := s.saved ++ [old] }
          | .error e t => .error e { s with state := t }
  | .restore slot, s =>
      match s.saved[slot]? with
      | none => .ok () s
      | some scope => s.act (enterScope scope)

/-- The session after an operation, whether it fails or not. -/
def after (op : ScopeOperation) (s : Session) : Session :=
  match op.run s with
  | .ok _ t => t
  | .error _ t => t

/-- The error with which an operation fails. -/
def error? (op : ScopeOperation) (s : Session) : Option Error :=
  match op.run s with
  | .ok _ _ => none
  | .error e _ => some e

/-- The name that an operation binds, and to what. -/
def binding? : ScopeOperation → Option (String × Value)
  | .define name v => some (name, v)
  | .set name v _ => some (name, v)
  | _ => none

end ScopeOperation

/-- The session after operations, one after the other. -/
def Session.afterAll (s : Session) (history : List ScopeOperation) : Session :=
  history.foldl (fun s op => op.after s) s

namespace ScopeOperation

variable {s : Session} {op : ScopeOperation}

/-! ### Operations that can fail -/

lemma run_pop (s : Session) :
    run .pop s =
      match s.state.scope.pop? with
      | some scope => .ok () { s with state := { s.state with scope } }
      | none => .error (.defect .emptyScope) s := by
  simp only [run, Session.act, leaveFrame, State.leaveFrame?]
  cases s.state.scope.pop? <;> rfl

lemma run_set (name : String) (v : Value) (span : Option Span) (s : Session) :
    run (.set name v span) s =
      if (s.lookup name).isSome then .ok () { s with state := s.state.bindTop name v }
      else .error (.fault (.unresolvedIdentifier name) span) s := by
  have hassign : assign name v span s.state =
      if (s.lookup name).isSome then .ok () (s.state.bindTop name v)
      else .error (.fault (.unresolvedIdentifier name) span) s.state := by
    rw [assign, get_bind_apply]
    show (if (s.lookup name).isSome then _ else _ : Run Unit) s.state = _
    split <;> rfl
  rw [run, Session.act, hassign]
  split_ifs <;> rfl

lemma run_get (name : String) (span : Option Span) (s : Session) :
    run (.get name span) s =
      if (s.lookup name).isSome then .ok () s
      else .error (.fault (.unresolvedIdentifier name) span) s := by
  rw [run, Session.act, getName, get_bind_apply, Session.lookup]
  cases s.state.lookup name <;> rfl

/-- The base frame cannot be left, any other can. -/
lemma isSome_error?_pop (s : Session) :
    (error? .pop s).isSome = true ↔ s.state.scope.depth = 1 := by
  rw [error?, run_pop, ← Scope.pop?_eq_none_iff]
  cases s.state.scope.pop? <;> simp

/-- A name is set unless nothing is found under it. -/
lemma isSome_error?_set (name : String) (v : Value) (span : Option Span) (s : Session) :
    (error? (.set name v span) s).isSome = true ↔ s.lookup name = none := by
  rw [error?, run_set]
  cases s.lookup name <;> simp

/-- An operation that fails changes nothing. -/
lemma after_of_error? {e : Error} (h : op.error? s = some e) : op.after s = s := by
  cases op with
  | pop =>
      rw [error?, run_pop] at h
      rw [after, run_pop]
      cases hpop : s.state.scope.pop? with
      | none => rfl
      | some scope =>
          rw [hpop] at h
          cases h
  | set name v span =>
      rw [error?, run_set] at h
      rw [after, run_set]
      by_cases hname : (s.lookup name).isSome = true
      · rw [if_pos hname] at h
        cases h
      · rw [if_neg hname]
  | get name span =>
      rw [after, run_get]
      split_ifs <;> rfl
  | enter slot =>
      rw [error?, run] at h
      cases hslot : s.captured[slot]? with
      | none =>
          rw [hslot] at h
          cases h
      | some scope =>
          rw [hslot] at h
          cases h
  | restore slot =>
      rw [error?, run] at h
      cases hslot : s.saved[slot]? with
      | none =>
          rw [hslot] at h
          cases h
      | some scope =>
          rw [hslot] at h
          cases h
  | _ => cases h

/-! ### One operation -/

/-- **What an operation does to a session**: it enters a new frame, or binds a name in the innermost one,
or it leaves all frames as they are, and the stacks are then old ones or the live one without its
innermost frame. -/
lemma after_cases (op : ScopeOperation) (s : Session) :
    (∃ bindings, op.after s = { s with state := s.state.enterFrame bindings }) ∨
    (∃ x v, op.binding? = some (x, v) ∧ op.after s = { s with state := s.state.bindTop x v }) ∨
    ((op.after s).state.store = s.state.store ∧
      ∀ scope ∈ (op.after s).scopes, scope ∈ s.scopes ∨ s.state.scope.pop? = some scope) := by
  cases op with
  | push seed => exact Or.inl ⟨seed.getD .empty, rfl⟩
  | define name v => exact Or.inr (Or.inl ⟨name, v, rfl, rfl⟩)
  | set name v span =>
      by_cases hname : (s.lookup name).isSome = true
      · refine Or.inr (Or.inl ⟨name, v, rfl, ?_⟩)
        rw [after, run_set, if_pos hname]
      · refine Or.inr (Or.inr ?_)
        rw [after, run_set, if_neg hname]
        exact ⟨rfl, fun _ => Or.inl⟩
  | pop =>
      refine Or.inr (Or.inr ?_)
      rw [after, run_pop]
      cases hpop : s.state.scope.pop? with
      | none => exact ⟨rfl, fun _ => Or.inl⟩
      | some outer =>
          refine ⟨rfl, fun scope hscope => ?_⟩
          obtain rfl | hscope := List.mem_cons.mp hscope
          · exact Or.inr rfl
          · exact Or.inl (List.mem_cons_of_mem _ hscope)
  | get name span =>
      refine Or.inr (Or.inr ?_)
      rw [after, run_get]
      split_ifs <;> exact ⟨rfl, fun _ => Or.inl⟩
  | lookup name => exact Or.inr (Or.inr ⟨rfl, fun _ => Or.inl⟩)
  | capture =>
      refine Or.inr (Or.inr ⟨rfl, fun scope hscope => Or.inl ?_⟩)
      simp only [after, run, Session.mem_scopes, List.mem_append, List.mem_singleton] at hscope ⊢
      tauto
  | enter slot =>
      refine Or.inr (Or.inr ?_)
      rw [after, run]
      cases hslot : s.captured[slot]? with
      | none => exact ⟨rfl, fun _ => Or.inl⟩
      | some entered =>
          have hmem := List.mem_of_getElem? hslot
          refine ⟨rfl, fun scope hscope => Or.inl ?_⟩
          obtain rfl | hscope | hscope := Session.mem_scopes.mp hscope
          · exact Session.mem_scopes.mpr (Or.inr (Or.inl hmem))
          · exact Session.mem_scopes.mpr (Or.inr (Or.inl hscope))
          · obtain hscope | hscope := List.mem_append.mp hscope
            · exact Session.mem_scopes.mpr (Or.inr (Or.inr hscope))
            · exact Session.mem_scopes.mpr (Or.inl (List.mem_singleton.mp hscope))
  | restore slot =>
      refine Or.inr (Or.inr ?_)
      rw [after, run]
      cases hslot : s.saved[slot]? with
      | none => exact ⟨rfl, fun _ => Or.inl⟩
      | some restored =>
          have hmem := List.mem_of_getElem? hslot
          refine ⟨rfl, fun scope hscope => Or.inl ?_⟩
          obtain rfl | hscope := List.mem_cons.mp hscope
          · exact Session.mem_scopes.mpr (Or.inr (Or.inr hmem))
          · exact List.mem_cons_of_mem _ hscope

end ScopeOperation

/-! ### What all operations keep -/

/-- All stacks end in the first frame that was made, and have frames only that exist. -/
structure Session.Sound (s : Session) : Prop where
  base : ∀ scope ∈ s.scopes, scope.base = ⟨0⟩
  hasFrame : ∀ scope ∈ s.scopes, ∀ r ∈ scope.frames, s.state.store.HasFrame r

/-- A scope that can be left is one in which a frame was entered. -/
lemma Scope.exists_push_of_pop? {scope outer : Scope} (h : scope.pop? = some outer) :
    ∃ r, scope = outer.push r := by
  obtain ⟨inner, base⟩ := scope
  cases inner with
  | nil => cases h
  | cons r rest =>
      cases h
      exact ⟨r, rfl⟩

namespace Session

variable {s : Session}

lemma sound_ofGlobals (globals : Frame) : (ofGlobals globals).Sound := by
  refine ⟨fun scope hscope => ?_, fun scope hscope r hr => ?_⟩
  · obtain rfl := List.mem_singleton.mp hscope
    rfl
  · obtain rfl := List.mem_singleton.mp hscope
    obtain rfl := List.mem_singleton.mp hr
    exact Nat.zero_lt_one

/-- **One operation keeps the stacks sound.** -/
lemma Sound.after (h : s.Sound) (op : ScopeOperation) : (op.after s).Sound := by
  obtain ⟨bindings, heq⟩ | ⟨x, v, -, heq⟩ | ⟨hstore, hscopes⟩ := op.after_cases s
  · rw [heq]
    refine ⟨fun scope hscope => ?_, fun scope hscope r hr => ?_⟩
    · obtain rfl | hscope := List.mem_cons.mp hscope
      · exact h.base s.state.scope List.mem_cons_self
      · exact h.base scope (List.mem_cons_of_mem _ hscope)
    · obtain rfl | hscope := List.mem_cons.mp hscope
      · obtain rfl | hr := List.mem_cons.mp hr
        · exact s.state.hasFrame_top_enterFrame bindings
        · exact Effect.hasFrame_enterFrame (h.hasFrame s.state.scope List.mem_cons_self r hr) bindings
      · exact Effect.hasFrame_enterFrame (h.hasFrame scope (List.mem_cons_of_mem _ hscope) r hr) bindings
  · rw [heq]
    refine ⟨h.base, fun scope hscope r hr => ?_⟩
    have hr := h.hasFrame scope hscope r hr
    rwa [Store.HasFrame, ← Store.size_frames_bind s.state.store s.state.scope.top x v] at hr
  · have hold : ∀ scope ∈ (op.after s).scopes, ∃ old ∈ s.scopes,
        scope.base = old.base ∧ scope.frames ⊆ old.frames := by
      intro scope hscope
      obtain hold | hpop := hscopes scope hscope
      · exact ⟨scope, hold, rfl, List.Subset.refl _⟩
      · obtain ⟨r, hpush⟩ := Scope.exists_push_of_pop? hpop
        refine ⟨s.state.scope, List.mem_cons_self, ?_, ?_⟩
        · rw [hpush]
          rfl
        · rw [hpush, Scope.frames_push]
          exact List.subset_cons_self r scope.frames
    refine ⟨fun scope hscope => ?_, fun scope hscope r hr => ?_⟩
    · obtain ⟨old, hmem, hbase, -⟩ := hold scope hscope
      exact hbase.trans (h.base old hmem)
    · obtain ⟨old, hmem, -, hframes⟩ := hold scope hscope
      rw [hstore]
      exact h.hasFrame old hmem r (hframes hr)

/-- **Any operations keep the stacks sound**, by induction on how many they are. -/
lemma Sound.afterAll (h : s.Sound) (history : List ScopeOperation) : (s.afterAll history).Sound := by
  induction history generalizing s with
  | nil => exact h
  | cons op rest ih => exact ih (h.after op)

/-! ### What is seen through a stack -/

/-- **Through which stacks an operation is seen.** What a name stands for in a stack changes only if the
operation binds that name, and the stack has the frame that is innermost in the live scope. A frame that
is entered is new, so no stack has it yet. -/
lemma Sound.lookup_after (h : s.Sound) (op : ScopeOperation) {scope : Scope} (hscope : scope ∈ s.scopes)
    {y : String} (hy : ∀ v, op.binding? = some (y, v) → s.state.scope.top ∉ scope.frames) :
    (op.after s).state.store.lookup scope y = s.state.store.lookup scope y := by
  obtain ⟨bindings, heq⟩ | ⟨x, v, hbinding, heq⟩ | ⟨hstore, -⟩ := op.after_cases s
  · rw [heq]
    refine Store.lookup_congr fun r hr => congrArg (Table.find? · y) ?_
    exact Store.frame_newFrame_of_lt (h.hasFrame scope hscope r hr) bindings
  · rw [heq]
    refine Store.lookup_congr fun r hr => ?_
    by_cases hxy : y = x
    · subst hxy
      have hne : r ≠ s.state.scope.top := by
        rintro rfl
        exact hy v hbinding hr
      exact congrArg (Table.find? · y) (Store.frame_bind_of_ne hne y v)
    · exact Store.find?_frame_bind_of_ne hxy s.state.store s.state.scope.top r v
  · rw [hstore]

/-- A name that is bound stands for the value in the live scope. -/
lemma Sound.lookup_of_binding (h : s.Sound) {op : ScopeOperation} {x : String} {v : Value}
    (hbinding : op.binding? = some (x, v)) (hok : op.error? s = none) :
    (op.after s).lookup x = some v := by
  have hafter : op.after s = { s with state := s.state.bindTop x v } := by
    cases op with
    | define name w =>
        cases hbinding
        rfl
    | set name w span =>
        cases hbinding
        by_cases hname : (s.lookup x).isSome = true
        · rw [ScopeOperation.after, ScopeOperation.run_set, if_pos hname]
        · rw [ScopeOperation.error?, ScopeOperation.run_set, if_neg hname] at hok
          cases hok
    | _ => cases hbinding
  rw [hafter]
  refine State.lookup_of_top ?_
  have htop : s.state.store.HasFrame s.state.scope.top :=
    h.hasFrame s.state.scope List.mem_cons_self _ s.state.scope.top_mem_frames
  show ((s.state.store.bind s.state.scope.top x v).frame s.state.scope.top).find? x = some v
  rw [Store.frame_bind _ _ _ _ _ htop, if_pos rfl, Table.find?_insert, if_pos rfl]

end Session

/-- **The base frame is never lost.** Start with a single frame, with any bindings, and perform any
operations on scopes, in any order and number.

* Every stack, be it live, captured or put aside, has an innermost frame and ends in the frame of the
  start, and all its frames exist.
* Leaving a frame fails exactly if one frame is live, and setting a name exactly if nothing is found
  under it; an operation that fails changes nothing.
* A name that is bound or set stands for the value in the live scope. Through no stack does an operation
  change what another name stands for, and through none without the frame that was innermost does it
  change what this name stands for. -/
theorem scope_operations_keep_base (globals : Frame) (history : List ScopeOperation) :
    let s := (Session.ofGlobals globals).afterAll history
    (∀ scope ∈ s.scopes, scope.frames.head? = some scope.top ∧ scope.frames.getLast? = some scope.base ∧
      scope.base = ⟨0⟩ ∧ ∀ r ∈ scope.frames, s.state.store.HasFrame r) ∧
    ((ScopeOperation.error? .pop s).isSome = true ↔ s.state.scope.frames.length = 1) ∧
    (∀ x v span, (ScopeOperation.error? (.set x v span) s).isSome = true ↔ s.lookup x = none) ∧
    (∀ op e, ScopeOperation.error? op s = some e → op.after s = s) ∧
    ∀ op x v, ScopeOperation.binding? op = some (x, v) →
      (op.error? s = none → (op.after s).lookup x = some v) ∧
      ∀ scope ∈ s.scopes, (∀ y, y ≠ x →
          (op.after s).state.store.lookup scope y = s.state.store.lookup scope y) ∧
        (s.state.scope.top ∉ scope.frames →
          (op.after s).state.store.lookup scope x = s.state.store.lookup scope x) := by
  intro s
  have hsound : s.Sound := (Session.sound_ofGlobals globals).afterAll history
  refine ⟨fun scope hscope => ⟨?_, ?_, hsound.base scope hscope, hsound.hasFrame scope hscope⟩, ?_,
    fun x v span => ScopeOperation.isSome_error?_set x v span s,
    fun op e => ScopeOperation.after_of_error?, fun op x v hbinding =>
      ⟨hsound.lookup_of_binding hbinding, fun scope hscope => ⟨fun y hy => ?_, fun htop => ?_⟩⟩⟩
  · rw [Scope.frames_eq_cons, List.head?_cons]
  · rw [Scope.frames, List.getLast?_concat]
  · rw [Scope.length_frames]
    exact ScopeOperation.isSome_error?_pop s
  · refine hsound.lookup_after op hscope fun w hw => ?_
    cases hbinding.symm.trans hw
    exact absurd rfl hy
  · exact hsound.lookup_after op hscope fun _ _ => htop

/-- The base frame is captured and another frame entered. Back in the captured scope a name is bound,
which is then seen in the scope that was put aside as well. Set there, it is bound in the inner frame:
the captured scope does not have that frame, and still sees the first value. -/
theorem late_binding_seen_through_two_stacks :
    let start : List ScopeOperation :=
      [.capture, .push none, .enter 0, .define "late" (.boolean true), .restore 0]
    let s := (Session.ofGlobals .empty).afterAll start
    let op : ScopeOperation := .set "late" .nil none
    let captured : Scope := ⟨[], ⟨0⟩⟩
    s.lookup "late" = some (.boolean true) ∧ op.error? s = none ∧
      (op.after s).lookup "late" = some .nil ∧ captured ∈ s.scopes ∧
      s.state.scope.top ∉ captured.frames ∧
      (op.after s).state.store.lookup captured "late" = some (.boolean true) := by
  intro start s op captured
  have hok : op.error? s = none := rfl
  have hcaptured : captured ∈ s.scopes := by decide
  have htop : s.state.scope.top ∉ captured.frames := by decide
  obtain ⟨-, -, -, -, hbinding⟩ := scope_operations_keep_base .empty start
  obtain ⟨hlive, hothers⟩ := hbinding op "late" .nil rfl
  exact ⟨rfl, hok, hlive hok, hcaptured, htop, ((hothers captured hcaptured).2 htop).trans rfl⟩

end RecordLang
