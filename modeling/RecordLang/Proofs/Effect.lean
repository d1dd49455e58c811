import Mathlib.Tactic
import RecordLang.Interpreter

/-!
Effects: what evaluation can do to the state.

An effect leads from one state to another and says what cut evaluation short, if anything did. Effects
are built from the few steps that change the state, put one after the other, and from three brackets:
a frame of its own, another scope, a recorded call. Every expression, statement and call has such an
effect, so a property of all evaluation is one induction over effects.

* `Effect`: the relation, with the names that may be bound in the innermost frame.
* `Effect.scope_eq`: the scope afterwards is the scope before.
* `Effect.calls_of_settled`: an effect that does not fail leaves the active calls as they were.
* `Effect.failure_eq`, `Effect.lines_prefix`: the console keeps the failure and the lines it has.
-/

namespace RecordLang

/-! ### How actions end -/

/-- Errors of an action, read as interrupts of evaluation. -/
class Interrupts (ε : Type) where
  toInterrupt : ε → Interrupt

instance : Interrupts Interrupt :=
  ⟨id⟩

instance : Interrupts Error :=
  ⟨.failed⟩

/-- The state in which an action ends, however it ends. -/
def finalState {ε α : Type} : EStateM.Result ε State α → State
  | .ok _ s => s
  | .error _ s => s

/-- What cut an action short, if anything did. -/
def interrupt? {ε α : Type} [Interrupts ε] : EStateM.Result ε State α → Option Interrupt
  | .ok _ _ => none
  | .error e _ => some (Interrupts.toInterrupt e)

/-! ### Effects -/

/-- `Effect names s i t` leads from the state `s` to the state `t`, cut short by `i`. In the innermost
frame of `s` it binds no names but `names`. -/
inductive Effect : List String → State → Option Interrupt → State → Prop where
  | stay {names s i} : Effect names s i s
  | seq {names s t u i} : Effect names s none t → Effect names t i u → Effect names s i u
  | bind {names s name} (v : Value) : name ∈ names → Effect names s none (s.bindTop name v)
  | list {names s} (items : Array Value) :
      Effect names s none { s with store := (s.store.newList items).2 }
  | record {names s} (fields : Table Value) :
      Effect names s none { s with store := (s.store.newRecord fields).2 }
  | number {names s} {n : Nat} : s.store.nextId ≤ n →
      Effect names s none { s with store := { s.store with nextId := n } }
  | append {names s} (r : ListRef) (item : Value) :
      Effect names s none { s with store := s.store.append r item }
  | register {names s} (name : String) (entry : TypeEntry) :
      Effect names s none { s with types := s.types.insert name entry }
  | log {names s} (parts : List String) : Effect names s none (s.log parts)
  /-- A frame of its own may be bound in freely. -/
  | frame {names inner s t i} {bindings : Frame} :
      Effect inner (s.enterFrame bindings) i t → Effect names s i { t with scope := s.scope }
  /-- In another scope nothing is bound. -/
  | scope {names s t i} {scope : Scope} :
      Effect [] { s with scope } i t → Effect names s i { t with scope := s.scope }
  | call {names s t} {c : CallFrame} :
      Effect [] { s with calls := c :: s.calls } none t →
      Effect names s none { t with calls := s.calls }
  /-- The record of a call that fails stays. -/
  | callFailed {names s t e} {c : CallFrame} :
      Effect [] { s with calls := c :: s.calls } (some (.failed e)) t →
      Effect names s (some (.failed e)) t
  | settle {names s t v} : Effect names s (some (.returned v)) t → Effect names s none t

namespace Effect

/-- More names may be allowed. -/
lemma mono {names names' : List String} {s t : State} {i : Option Interrupt}
    (h : Effect names s i t) (hsub : names ⊆ names') : Effect names' s i t := by
  induction h with
  | stay => exact .stay
  | seq _ _ ih₁ ih₂ => exact .seq (ih₁ hsub) (ih₂ hsub)
  | bind v hmem => exact .bind v (hsub hmem)
  | list items => exact .list items
  | record fields => exact .record fields
  | number hn => exact .number hn
  | append r item => exact .append r item
  | register name entry => exact .register name entry
  | log parts => exact .log parts
  | frame h _ => exact .frame h
  | scope h _ => exact .scope h
  | call h _ => exact .call h
  | callFailed h _ => exact .callFailed h
  | settle _ ih => exact .settle (ih hsub)

/-- The scope afterwards is the scope before: both brackets that change it put it back. -/
lemma scope_eq {names : List String} {s t : State} {i : Option Interrupt}
    (h : Effect names s i t) : t.scope = s.scope := by
  induction h with
  | seq _ _ ih₁ ih₂ => exact ih₂.trans ih₁
  | call _ ih => exact ih
  | callFailed _ ih => exact ih
  | settle _ ih => exact ih
  | _ => rfl

/-- The active calls afterwards: those before, and after a failure the ones that led to it in front of
them. -/
lemma calls {names : List String} {s t : State} {i : Option Interrupt} (h : Effect names s i t) :
    s.calls <:+ t.calls ∧ ((∀ e, i ≠ some (.failed e)) → t.calls = s.calls) := by
  induction h with
  | seq _ _ ih₁ ih₂ =>
      have h₁ := ih₁.2 (by simp)
      exact ⟨h₁ ▸ ih₂.1, fun hi => (ih₂.2 hi).trans h₁⟩
  | frame _ ih => exact ih
  | scope _ ih => exact ih
  | call _ _ => exact ⟨List.suffix_rfl, fun _ => rfl⟩
  | @callFailed _ s _ e c _ ih =>
      exact ⟨(List.suffix_cons c s.calls).trans ih.1, fun hi => absurd rfl (hi e)⟩
  | settle _ ih => exact ⟨ih.1, fun _ => ih.2 (by simp)⟩
  | _ => exact ⟨List.suffix_rfl, fun _ => rfl⟩

/-- An effect that does not fail leaves the active calls as they were. -/
lemma calls_of_settled {names : List String} {s t : State} (h : Effect names s none t) :
    t.calls = s.calls :=
  h.calls.2 (by simp)

/-- Evaluation logs lines; a failure is put on the console by the host only. -/
lemma failure_eq {names : List String} {s t : State} {i : Option Interrupt}
    (h : Effect names s i t) : t.console.failure = s.console.failure := by
  induction h with
  | seq _ _ ih₁ ih₂ => exact ih₂.trans ih₁
  | frame _ ih => exact ih
  | scope _ ih => exact ih
  | call _ ih => exact ih
  | callFailed _ ih => exact ih
  | settle _ ih => exact ih
  | _ => rfl

/-- Lines are added to the console and never removed. -/
lemma lines_prefix {names : List String} {s t : State} {i : Option Interrupt}
    (h : Effect names s i t) : s.console.lines.toList <+: t.console.lines.toList := by
  induction h with
  | seq _ _ ih₁ ih₂ => exact ih₁.trans ih₂
  | log parts =>
      rw [State.log, Console.log, Array.toList_push]
      exact List.prefix_append _ _
  | frame _ ih => exact ih
  | scope _ ih => exact ih
  | call _ ih => exact ih
  | callFailed _ ih => exact ih
  | settle _ ih => exact ih
  | _ => exact List.prefix_rfl

end Effect

end RecordLang
