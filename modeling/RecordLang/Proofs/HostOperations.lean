import RecordLang.Proofs.CallTrace

/-!
Operations of a host, one after the other.

A host runs programs and calls values on one interpreter, in any order. A call that fails leaves the
records of the calls that led to the error, for the trace. When a program fails, its trace is reported
and the records are forgotten; nothing forgets them when the host made the call. They still count
against the limit, so a later operation can be refused a call without having entered as many calls as
the limit allows.

* `Operation`, `Operation.apply`, `Operation.error?`: what a host does, the state after it and the
  error that it gets.
* `applyAll`, `lastFailed?`: operations one after the other, and the last of them that failed.
* `calls_applyAll_eq_nil`: calls are left over only if a call by the host failed last.
* `limit_counts_left_over_calls`: when the limit is reached, the calls that the operation has entered
  and those left over make up the limit.
* `limit_without_own_calls`: a program that is refused its only call.
-/

namespace RecordLang

/-! ### Operations -/

/-- What a host does with an interpreter. -/
inductive Operation where
  | run (program : Program)
  | call (target argument : Value) (span : Span)

/-- The error that a program reports. -/
def Report.error? : Report → Option Error
  | .failed e => some e
  | _ => none

namespace Operation

/-- What is evaluated for an operation. -/
def task : Operation → Task
  | .run program => .statements program
  | .call target argument span => .call target argument span

/-- The state after an operation. -/
def apply (config : Config) : Operation → State → State
  | .run program, s => (RecordLang.run config program s).2
  | .call target argument span, s => finalState (RecordLang.call config target argument span s)

/-- The error that the host gets from an operation. -/
def error? (config : Config) : Operation → State → Option Error
  | .run program, s => (RecordLang.run config program s).1.error?
  | .call target argument span, s =>
      match RecordLang.call config target argument span s with
      | .ok _ _ => none
      | .error e _ => some e

end Operation

/-- The state after operations, each from the state that the one before it left. -/
def applyAll (config : Config) (history : List Operation) (s : State) : State :=
  history.foldl (fun s op => op.apply config s) s

/-- The last of some operations that failed. -/
def lastFailed? (config : Config) : List Operation → State → Option Operation
  | [], _ => none
  | op :: rest, s =>
      (lastFailed? config rest (op.apply config s)).or ((op.error? config s).map fun _ => op)

/-! ### What one operation leaves -/

section

variable {config : Config}

/-- The active calls after a program: none if it fails, and else those of before. -/
lemma Operation.run_cases (config : Config) (program : Program) (s : State) :
    (Operation.error? config (.run program) s = none ∧
        (Operation.apply config (.run program) s).calls = s.calls) ∨
      ∃ e t, Operation.error? config (.run program) s = some e ∧
        Job.outcome config ⟨.statements program, s⟩ = .error (.failed e) t ∧
        (Operation.apply config (.run program) s).calls = [] := by
  rw [Operation.error?, Operation.apply, run_eq_ofOutcome]
  rcases hs : Job.outcome config ⟨.statements program, s⟩ with ⟨v, t⟩ | ⟨v | e, t⟩
  · exact Or.inl ⟨rfl, Job.calls_of_not_failed (Or.inl hs)⟩
  · exact Or.inl ⟨rfl, Job.calls_of_not_failed (Or.inr hs)⟩
  · exact Or.inr ⟨e, t, rfl, rfl, rfl⟩

/-- The active calls after a call: if it fails, those with which it fails, and else those of before. -/
lemma Operation.call_cases (config : Config) (target argument : Value) (span : Span) (s : State) :
    (Operation.error? config (.call target argument span) s = none ∧
        (Operation.apply config (.call target argument span) s).calls = s.calls) ∨
      ∃ e t, Operation.error? config (.call target argument span) s = some e ∧
        Job.outcome config ⟨.call target argument span, s⟩ = .error (.failed e) t ∧
        (Operation.apply config (.call target argument span) s).calls = t.calls := by
  have houtcome : Job.outcome config ⟨.call target argument span, s⟩
      = (liftM (RecordLang.call config target argument span) : Eval Value) s := rfl
  rw [lift_apply] at houtcome
  rw [Operation.error?, Operation.apply]
  rcases hs : RecordLang.call config target argument span s with ⟨v, t⟩ | ⟨e, t⟩
  · rw [hs] at houtcome
    exact Or.inl ⟨rfl, Job.calls_of_not_failed (Or.inl houtcome)⟩
  · rw [hs] at houtcome
    exact Or.inr ⟨e, t, rfl, houtcome, rfl⟩

variable {op : Operation} {s : State}

/-- The host gets the error with which the job of the operation fails. -/
lemma Operation.exists_outcome {e : Error} (h : op.error? config s = some e) :
    ∃ t, Job.outcome config ⟨op.task, s⟩ = .error (.failed e) t := by
  cases op with
  | run program =>
      obtain ⟨hnone, -⟩ | ⟨e', t, he, ht, -⟩ := Operation.run_cases config program s
      · cases hnone.symm.trans h
      · cases he.symm.trans h
        exact ⟨t, ht⟩
  | call target argument span =>
      obtain ⟨hnone, -⟩ | ⟨e', t, he, ht, -⟩ := Operation.call_cases config target argument span s
      · cases hnone.symm.trans h
      · cases he.symm.trans h
        exact ⟨t, ht⟩

/-- An operation that ends well leaves the active calls as they were. -/
lemma Operation.calls_apply_of_none (h : op.error? config s = none) :
    (op.apply config s).calls = s.calls := by
  cases op with
  | run program =>
      obtain ⟨-, hcalls⟩ | ⟨e, t, he, -, -⟩ := Operation.run_cases config program s
      · exact hcalls
      · cases he.symm.trans h
  | call target argument span =>
      obtain ⟨-, hcalls⟩ | ⟨e, t, he, -, -⟩ := Operation.call_cases config target argument span s
      · exact hcalls
      · cases he.symm.trans h

/-- No operation leaves more active calls than the limit allows. -/
lemma Operation.length_calls_apply_le (op : Operation) (hs : s.calls.length ≤ config.maxCallDepth) :
    (op.apply config s).calls.length ≤ config.maxCallDepth := by
  cases op with
  | run program =>
      obtain ⟨-, hcalls⟩ | ⟨e, t, -, -, hcalls⟩ := Operation.run_cases config program s
      · rw [hcalls]
        exact hs
      · rw [hcalls]
        exact Nat.zero_le _
  | call target argument span =>
      obtain ⟨-, hcalls⟩ | ⟨e, t, -, ht, hcalls⟩ :=
        Operation.call_cases config target argument span s
      · rw [hcalls]
        exact hs
      · have hle : t.calls.length ≤ max s.calls.length config.maxCallDepth :=
          Job.length_calls_le ht
        rw [hcalls]
        omega

/-! ### What operations leave -/

lemma length_calls_applyAll_le (history : List Operation)
    (hs : s.calls.length ≤ config.maxCallDepth) :
    (applyAll config history s).calls.length ≤ config.maxCallDepth := by
  induction history generalizing s with
  | nil => exact hs
  | cons op rest ih => exact ih (op.length_calls_apply_le hs)

/-- Operations that end well leave the active calls as they were. -/
lemma calls_applyAll_of_none {history : List Operation} (h : lastFailed? config history s = none) :
    (applyAll config history s).calls = s.calls := by
  induction history generalizing s with
  | nil => rfl
  | cons op rest ih =>
      rw [lastFailed?, Option.or_eq_none_iff, Option.map_eq_none_iff] at h
      exact (ih h.1).trans (Operation.calls_apply_of_none h.2)

/-- A program that fails takes all active calls with it. -/
lemma calls_applyAll_of_run {history : List Operation} {program : Program}
    (h : lastFailed? config history s = some (.run program)) :
    (applyAll config history s).calls = [] := by
  induction history generalizing s with
  | nil => cases h
  | cons op rest ih =>
      rw [lastFailed?, Option.or_eq_some_iff] at h
      obtain hrest | ⟨hrest, hop⟩ := h
      · exact ih hrest
      · obtain ⟨e, he, rfl⟩ := Option.map_eq_some_iff.mp hop
        refine (calls_applyAll_of_none hrest).trans ?_
        obtain ⟨hnone, -⟩ | ⟨e', t, -, -, hcalls⟩ := Operation.run_cases config program s
        · cases hnone.symm.trans he
        · exact hcalls

/-- Calls are left over only if the last operation that failed was a call. -/
lemma calls_applyAll_eq_nil {history : List Operation} (hs : s.calls = [])
    (h : ∀ target argument span, lastFailed? config history s ≠ some (.call target argument span)) :
    (applyAll config history s).calls = [] := by
  cases hlast : lastFailed? config history s with
  | none => exact (calls_applyAll_of_none hlast).trans hs
  | some op =>
      cases op with
      | run program => exact calls_applyAll_of_run hlast
      | call target argument span => exact absurd hlast (h target argument span)

/-- A trace has one active call for each of its jobs. -/
lemma Job.IsTrace.length_filterMap {p : Job} {trace : List Job} (h : p.IsTrace config trace) :
    (trace.filterMap (·.entered? config)).length = trace.length :=
  List.filterMap_length_eq_length.mpr fun q hq => ((h.mem_iff q).mp hq).2.1

/-- Without a free place no call is recorded. -/
lemma Job.entered?_eq_none {p : Job} (h : config.maxCallDepth ≤ p.state.calls.length) :
    p.entered? config = none := by
  obtain ⟨task, s⟩ := p
  cases task with
  | call target argument span => exact if_neg (Nat.not_lt.mpr h)
  | _ => rfl

/-- When no place is free at the start, none becomes free, so no call is entered. -/
lemma Job.isTrace_nil {p : Job} (h : config.maxCallDepth ≤ p.state.calls.length) :
    p.IsTrace config [] := by
  have hfull : ∀ q, p.LeadsTo config q → config.maxCallDepth ≤ q.state.calls.length := by
    intro q hq
    induction hq with
    | refl => exact h
    | tail _ hinvokes ih =>
        rw [hinvokes.calls_eq, Job.entered?_eq_none ih]
        exact ih
  refine ⟨fun q => ⟨fun hmem => absurd hmem List.not_mem_nil, fun hq => ?_⟩, List.Pairwise.nil⟩
  rw [Job.entered?_eq_none (hfull q hq.1)] at hq
  cases hq.2.1

end

/-! ### The limit -/

/-- **What the limit counts.** After any operations on a fresh interpreter, failed ones included, let an
operation fail because the limit is reached. The calls that it has entered and not left, newest first,
then stand in front of the calls left over from before, and both together are as many as the limit
allows. They are calls of the operation alone if the last operation that failed before it, if any did,
was a program and not a call by the host. -/
theorem limit_counts_left_over_calls (config : Config) (history : List Operation) (op : Operation)
    (e : Error) (h : op.error? config (applyAll config history .initial) = some e)
    (hlimit : e.IsLimit) :
    let s := applyAll config history .initial
    ∃ t trace, Job.outcome config ⟨op.task, s⟩ = .error (.failed e) t ∧
      Job.IsTrace config ⟨op.task, s⟩ trace ∧
      t.calls = trace.filterMap (·.entered? config) ++ s.calls ∧
      trace.length + s.calls.length = config.maxCallDepth ∧
      ((∀ target argument span,
          lastFailed? config history .initial ≠ some (.call target argument span)) →
        trace.length = config.maxCallDepth) := by
  intro s
  obtain ⟨t, ht⟩ := Operation.exists_outcome h
  obtain ⟨trace, htrace, hcalls⟩ := Job.exists_isTrace ht
  have hleft : s.calls.length ≤ config.maxCallDepth :=
    length_calls_applyAll_le history (Nat.zero_le _)
  have hsum : trace.length + s.calls.length = config.maxCallDepth := by
    have hlength : t.calls.length = trace.length + s.calls.length := by
      rw [hcalls, List.length_append, htrace.length_filterMap]
    have hle : t.calls.length ≤ max s.calls.length config.maxCallDepth := Job.length_calls_le ht
    have hge := Job.le_length_calls ht hlimit
    omega
  refine ⟨t, trace, ht, htrace, hcalls, hsum, fun hlast => ?_⟩
  have hnil : s.calls = [] := calls_applyAll_eq_nil rfl hlast
  rw [hnil, List.length_nil] at hsum
  exact hsum

/-- A call by the host fails and leaves a record, a program fails, and a third operation defines a
function that calls itself. When that function is called, it is entered as often as the limit allows. -/
theorem limit_after_failed_program :
    let config : Config := { maxCallDepth := 2 }
    let x : Expr := .identifier "x" default
    let loop : Expr := .call (.identifier "loop" default) x default
    let history : List Operation := [.call (.native .length) .nil default,
      .run [.expression (.identifier "missing" default) default],
      .run [.function "loop" [(x, .mk [] (some loop))] default, .const "x" (.literal .null default)
        default]]
    let op : Operation := .run [.expression loop default]
    let s := applyAll config history .initial
    op.error? config s = some (.fault (.recursionLimit 2) (some default)) ∧
      ∃ trace, Job.IsTrace config ⟨op.task, s⟩ trace ∧ trace.length = 2 := by
  intro config x loop history op s
  have herror : op.error? config s = some (.fault (.recursionLimit 2) (some default)) := by
    revert config x
    rfl
  have hlast : lastFailed? config history .initial
      = some (.run [.expression (.identifier "missing" default) default]) := by
    clear herror
    revert config x
    rfl
  obtain ⟨t, trace, -, htrace, -, -, hown⟩ :=
    limit_counts_left_over_calls config history op _ herror trivial
  refine ⟨herror, trace, htrace, hown fun target argument span hcall => ?_⟩
  cases hlast.symm.trans hcall

/-- The limit can be reached by calls left over alone. With one place for calls, the host calls a native
function with an argument of the wrong kind; then a program is refused its only call, though no call
is active that it has entered. -/
theorem limit_without_own_calls :
    let config : Config := { maxCallDepth := 1 }
    let length : Expr := .identifier "length" default
    let history : List Operation := [.call (.native .length) .nil default]
    let program : Program :=
      [.leave (some (.call length (.literal (.string "ab") default) default)) default]
    let s := applyAll config history .initial
    Operation.error? config (.run program) s = some (.fault (.recursionLimit 1) (some default)) ∧
      Job.IsTrace config ⟨.statements program, s⟩ [] := by
  intro config length history program s
  have herror : Operation.error? config (.run program) s
      = some (.fault (.recursionLimit 1) (some default)) := by
    revert config length
    rfl
  exact ⟨herror, Job.isTrace_nil (by decide)⟩

end RecordLang
