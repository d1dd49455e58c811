import RecordLang.Proofs.Errors
import RecordLang.Proofs.Invocation

/-!
Actions that make no calls.

Most steps of evaluation call nothing. When such a step fails, the active calls are as they were before
it, and the error is not that the calls are too deep.

* `Error.IsLimit`: the error of a call that finds no free place.
* `Plain`: an action that makes no calls.
* `Plain.bind`, `Plain.lift`: how such actions are put together.
* `plain_define`, `plain_construct`, `plain_bindParams`, `plain_native`: the steps of evaluation.
-/

namespace RecordLang

/-- The error of a call that finds no free place. -/
def Error.IsLimit : Error → Prop
  | .fault (.recursionLimit _) _ => True
  | _ => False

/-- An error about data is not about the depth of calls. -/
lemma Error.PointsInto.not_isLimit {sites : List Site} {e : Error}
    (h : e.PointsInto sites Cause.IsData) : ¬ e.IsLimit := by
  rintro hlimit
  cases e with
  | fault cause span =>
      cases span with
      | none => exact h
      | some span =>
          cases cause with
          | recursionLimit limit => exact h.1
          | _ => exact hlimit
  | defect d => exact hlimit

/-- An action that makes no calls: when it fails, the active calls are as they were, and no limit was
reached. -/
def Plain {ε α : Type} [Interrupts ε] (x : EStateM ε State α) : Prop :=
  ∀ s e, interrupt? (x s) = some (.failed e) →
    (finalState (x s)).calls = s.calls ∧ ¬ e.IsLimit

section

variable {ε α β : Type} [Interrupts ε]

/-- An action that never fails. -/
lemma plain_of_settled {x : EStateM ε State α} (h : ∀ s, interrupt? (x s) = none) : Plain x := by
  intro s e he
  rw [h s] at he
  exact absurd he (by simp)

lemma plain_pure (a : α) : Plain (pure a : EStateM ε State α) :=
  plain_of_settled fun _ => rfl

lemma plain_get : Plain (get : EStateM ε State State) :=
  plain_of_settled fun _ => rfl

lemma plain_modify (f : State → State) : Plain (modify f : EStateM ε State Unit) :=
  plain_of_settled fun _ => rfl

lemma Plain.bind {x : EStateM ε State α} {f : α → EStateM ε State β} (hx : Plain x)
    (heffect : HasEffect [] x) (hf : ∀ a, Plain (f a)) : Plain (x >>= f) := by
  intro s e
  have hfails := hx s e
  have hs := heffect s
  rw [bind_apply]
  cases h : x s with
  | ok a t =>
      intro he
      rw [h] at hs
      obtain ⟨hcalls, hlimit⟩ := hf a t e he
      exact ⟨hcalls.trans hs.calls_of_settled, hlimit⟩
  | error i t =>
      rw [h] at hfails
      exact hfails

/-- What follows never fails, so a failure is one of the first action. -/
lemma Plain.bindSettled {x : EStateM ε State α} {f : α → EStateM ε State β} (hx : Plain x)
    (hf : ∀ a s, interrupt? (f a s) = none) : Plain (x >>= f) := by
  intro s e
  have hfails := hx s e
  rw [bind_apply]
  cases h : x s with
  | ok a t =>
      intro he
      rw [hf a t] at he
      exact absurd he (by simp)
  | error i t =>
      rw [h] at hfails
      exact hfails

end

section

variable {α : Type}

lemma Plain.lift {x : Run α} (hx : Plain x) : Plain (liftM x : Eval α) := by
  intro s e
  have hfails := hx s e
  rw [lift_apply]
  cases h : x s <;> rw [h] at hfails <;> exact hfails

/-- A pure computation makes no calls. -/
lemma plain_except {sites : List Site} {x : Except Error α} (h : Blames sites x) :
    Plain (liftM x : Run α) := by
  intro s e he
  cases x with
  | ok a => exact absurd he (by rintro ⟨⟩)
  | error e' =>
      cases he
      exact ⟨rfl, (h e rfl).not_isLimit⟩

lemma plain_throw {e : Error} (h : ¬ e.IsLimit) : Plain (throw e : Run α) := by
  intro s e' he
  cases he
  exact ⟨rfl, h⟩

lemma plain_returned (v : Value) : Plain (throw (.returned v) : Eval α) := by
  intro s e he
  cases he

end

section

lemma plain_getName (name : String) (span : Option Span) : Plain (getName name span) := by
  rw [getName]
  refine plain_get.bind hasEffect_get fun s => ?_
  split
  · exact plain_pure _
  · exact plain_throw id

lemma plain_assign (name : String) (v : Value) (span : Option Span) : Plain (assign name v span) := by
  rw [assign]
  refine plain_get.bind hasEffect_get fun s => ?_
  split
  · exact plain_modify _
  · exact plain_throw id

lemma plain_define (policy : Redefinition) (name : String) (v : Value) (span : Span) :
    Plain (define policy name v span) := by
  rw [define]
  refine plain_get.bind hasEffect_get fun s => ?_
  split
  · cases policy with
    | strict =>
        have hthrow : Plain (throw (.fault (.redefinition name) (some span)) : Run PUnit) :=
          plain_throw id
        exact hthrow.bind (hasEffect_throw _) fun _ => plain_modify _
    | permissive =>
        exact (plain_modify _).bind (hasEffect_modify fun _ => .log _) fun _ =>
          plain_modify _
  · exact plain_modify _

lemma plain_resolve (path : TypePath) : Plain (resolve path) :=
  plain_get.bind hasEffect_get fun s =>
    plain_except (blames_resolve s.types (List.Subset.refl path.sites))

lemma plain_construct (c : Class) (argument : Value) (span : Span) :
    Plain (construct c argument span) := by
  have hspan : Site.place span ∈ .place span :: c.shape.sites := List.mem_cons_self
  refine (plain_except (blames_expectRecord hspan argument)).bind (hasEffect_except _)
    fun r => ?_
  refine plain_get.bind hasEffect_get fun s => ?_
  exact plain_except (blames_instantiate s.types s.store (List.subset_cons_self _ _) r hspan)

lemma plain_bindParams (f : Lambda) (argument : Value) (span : Span) :
    Plain (f.bindParams argument span) := by
  cases argument with
  | record r =>
      refine plain_get.bind hasEffect_get fun s => ?_
      have hspan : Site.place span ∈ .place span :: f.params.sites := List.mem_cons_self
      have hcheck := blames_check s.types s.store (List.subset_cons_self (.place span) f.params.sites)
        (s.store.record r) "function argument" hspan
      exact (plain_except hcheck).bind (hasEffect_except _) fun _ => plain_pure _
  | _ => exact plain_throw id

lemma plain_native (f : Native) (argument : Value) (span : Span) :
    Plain (f.call argument span) := by
  rw [f.call_eq_apply]
  have hspan : Site.place span ∈ [.place span] := List.mem_singleton_self _
  cases f with
  | length =>
      cases argument with
      | list r => exact plain_get.bind hasEffect_get fun _ => plain_pure _
      | string s => exact plain_pure _
      | _ => exact plain_throw id
  | toString => exact plain_get.bind hasEffect_get fun _ => plain_pure _
  | push =>
      refine (plain_except (blames_expectRecord hspan argument)).bind
        (hasEffect_except _) fun r => ?_
      refine plain_get.bind hasEffect_get fun s => ?_
      refine (plain_except (blames_pushField hspan _ _)).bind (hasEffect_except _)
        fun target => ?_
      refine (plain_except (blames_pushField hspan _ _)).bind (hasEffect_except _)
        fun item => ?_
      refine (plain_except (blames_expectList hspan target)).bind (hasEffect_except _)
        fun list => ?_
      exact (plain_modify _).bind (hasEffect_modify fun _ => .append list item) fun _ =>
        plain_pure _
  | floor =>
      exact (plain_except (blames_expectNumber hspan argument)).bind
        (hasEffect_except _) fun _ => plain_pure _

end

end RecordLang
