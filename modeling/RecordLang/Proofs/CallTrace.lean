import RecordLang.Proofs.Invocation.Failure

/-!
The active calls and the trace of an error.

A recorded call is removed when it ends well, and stays when it ends with an error. So the calls that
are active at the end of evaluation are those that were active before, and in front of them the calls
that led to the error: each of these was entered on the way and fails itself.

* `Job.IsTrace`: the calls on the way to an error, newest first.
* `Job.exists_isTrace`: the active calls after an error are those of the trace and the old ones.
* `Job.length_calls_le`, `Job.le_length_calls`: the limit bounds the active calls, and is reached when
  it is what the error is about.
* `State.lines_reportFailure`: what is written to the console about an error.
* `active_calls_and_trace`: the main statement, for all of evaluation and for programs.
-/

namespace RecordLang

/-! ### Traces -/

/-- One job leads to another, through jobs that invoke each other; each leads to itself. -/
def Job.LeadsTo (config : Config) : Job → Job → Prop :=
  Relation.ReflTransGen (Job.Invokes config)

/-- The calls that were entered and not left when `p` failed: exactly the jobs to which `p` leads that
recorded a call and failed themselves. The newest stands first, every other one led to those before
it. -/
structure Job.IsTrace (config : Config) (p : Job) (trace : List Job) : Prop where
  mem_iff : ∀ q, q ∈ trace ↔ p.LeadsTo config q ∧ (q.entered? config).isSome ∧ q.Fails config
  newest_first : trace.Pairwise fun inner outer =>
    Relation.TransGen (Job.Invokes config) outer inner

/-- The job itself, if it records a call. -/
def Job.own (config : Config) (p : Job) : List Job :=
  if (p.entered? config).isSome then [p] else []

section

variable {config : Config}

lemma Job.mem_own {p q : Job} : q ∈ p.own config ↔ q = p ∧ (q.entered? config).isSome := by
  rw [Job.own]
  split <;> grind

lemma Job.filterMap_own (p : Job) :
    (p.own config).filterMap (·.entered? config) = (p.entered? config).toList := by
  rw [Job.own]
  cases h : p.entered? config <;> simp [h]

/-- What leads to a failure fails. -/
lemma Job.Fails.of_leadsTo {p q : Job} (hq : q.Fails config) (h : p.LeadsTo config q) :
    p.Fails config := by
  induction h using Relation.ReflTransGen.head_induction_on with
  | refl => exact hq
  | head hinvokes _ ih =>
      obtain ⟨e, u, hu⟩ := ih
      obtain ⟨t, ht, -⟩ := hinvokes.outcome_eq_failed hu
      exact ⟨e, t, ht⟩

/-- A failing job leads to a failing one directly or through a failing one. -/
lemma Job.Fails.leadsTo_iff {p q : Job} (hq : q.Fails config) :
    p.LeadsTo config q ↔
      q = p ∨ ∃ r, p.Invokes config r ∧ r.Fails config ∧ r.LeadsTo config q := by
  rw [Job.LeadsTo, Relation.ReflTransGen.cases_head_iff]
  constructor
  · rintro (rfl | ⟨r, hinvokes, hleads⟩)
    · exact Or.inl rfl
    · exact Or.inr ⟨r, hinvokes, hq.of_leadsTo hleads, hleads⟩
  · rintro (rfl | ⟨r, hinvokes, -, hleads⟩)
    · exact Or.inl rfl
    · exact Or.inr ⟨r, hinvokes, hleads⟩

/-- The trace of a job that fails by itself. -/
lemma Job.isTrace_own {p : Job} (hp : p.Fails config)
    (h : ∀ q, p.Invokes config q → ¬ q.Fails config) : p.IsTrace config (p.own config) := by
  refine ⟨fun q => ?_, ?_⟩
  · rw [Job.mem_own]
    constructor
    · rintro ⟨rfl, hentered⟩
      exact ⟨.refl, hentered, hp⟩
    · rintro ⟨hleads, hentered, hfails⟩
      obtain rfl | ⟨r, hinvokes, hr, -⟩ := hfails.leadsTo_iff.mp hleads
      · exact ⟨rfl, hentered⟩
      · exact absurd hr (h r hinvokes)
  · rw [Job.own]
    split <;> simp

/-- The trace of a job that fails with one that it invokes. -/
lemma Job.IsTrace.append_own {p q : Job} {trace : List Job} (h : q.IsTrace config trace)
    (hinvokes : p.Invokes config q) (hq : q.Fails config) (hp : p.Fails config) :
    p.IsTrace config (trace ++ p.own config) := by
  refine ⟨fun r => ?_, ?_⟩
  · rw [List.mem_append, h.mem_iff, Job.mem_own]
    constructor
    · rintro (⟨hleads, hentered, hfails⟩ | ⟨rfl, hentered⟩)
      · exact ⟨.head hinvokes hleads, hentered, hfails⟩
      · exact ⟨.refl, hentered, hp⟩
    · rintro ⟨hleads, hentered, hfails⟩
      obtain rfl | ⟨q', hinvokes', hq', hleads'⟩ := hfails.leadsTo_iff.mp hleads
      · exact Or.inr ⟨rfl, hentered⟩
      · -- the job through which `p` leads to `r` is `q`, the only one invoked that fails
        obtain rfl := hinvokes'.eq_of_fails hinvokes hq' hq
        exact Or.inl ⟨hleads', hentered, hfails⟩
  · rw [List.pairwise_append]
    refine ⟨h.newest_first, ?_, fun inner hinner outer houter => ?_⟩
    · rw [Job.own]
      split <;> simp
    · obtain ⟨rfl, -⟩ := Job.mem_own.mp houter
      exact .head' hinvokes ((h.mem_iff inner).mp hinner).1

/-! ### Active calls after an error -/

/-- A job fails by itself, or with a job that it invokes. -/
lemma Job.failed_cases {p : Job} {e : Error} {t : State}
    (h : p.outcome config = .error (.failed e) t) :
    ((∀ q, p.Invokes config q → ¬ q.Fails config) ∧
        t.calls = (p.entered? config).toList ++ p.state.calls ∧
        (e.IsLimit → config.maxCallDepth ≤ p.state.calls.length)) ∨
      ∃ q u, p.Invokes config q ∧ q.outcome config = .error (.failed e) u ∧ u.calls = t.calls := by
  by_cases hinner : ∃ q, p.Invokes config q ∧ q.Fails config
  · obtain ⟨q, hinvokes, e', u, hu⟩ := hinner
    obtain ⟨t', ht', hcalls⟩ := hinvokes.outcome_eq_failed hu
    rw [h] at ht'
    cases ht'
    exact Or.inr ⟨q, u, hinvokes, hu, hcalls.symm⟩
  · have hnone : ∀ q, p.Invokes config q → ¬ q.Fails config :=
      fun q hinvokes hq => hinner ⟨q, hinvokes, hq⟩
    obtain ⟨asked, hinvoked, -, hfails⟩ := p.isCovered config
    obtain hown | ⟨q, hq, u, hu, -⟩ := hfails e t h
    · exact Or.inl ⟨hnone, hown⟩
    · exact absurd ⟨e, u, hu⟩ (hnone q (hinvoked q hq))

/-- **The trace of an error.** The active calls after an error are the calls on the way to it, newest
first, and then those that were active before. -/
theorem Job.exists_isTrace {p : Job} {e : Error} {t : State}
    (h : p.outcome config = .error (.failed e) t) :
    ∃ trace, p.IsTrace config trace ∧
      t.calls = trace.filterMap (·.entered? config) ++ p.state.calls := by
  induction p using (Job.wellFounded_invokes config).induction generalizing t with
  | _ p ih =>
      obtain ⟨hnone, hcalls, -⟩ | ⟨q, u, hinvokes, hu, hcalls⟩ := Job.failed_cases h
      · refine ⟨p.own config, Job.isTrace_own ⟨e, t, h⟩ hnone, ?_⟩
        rw [hcalls, Job.filterMap_own]
      · obtain ⟨trace, htrace, hu'⟩ := ih q hinvokes hu
        refine ⟨trace ++ p.own config, htrace.append_own hinvokes ⟨e, u, hu⟩ ⟨e, t, h⟩, ?_⟩
        rw [← hcalls, hu', hinvokes.calls_eq, List.filterMap_append, Job.filterMap_own,
          List.append_assoc]

/-- The call that a job records has a place below the limit. -/
lemma Job.length_entered_le (config : Config) (p : Job) :
    ((p.entered? config).toList ++ p.state.calls).length
      ≤ max p.state.calls.length config.maxCallDepth := by
  obtain ⟨task, s⟩ := p
  cases task with
  | call target argument span =>
      rw [Job.entered?]
      split
      · cases target.callee? with
        | none => exact le_max_left _ _
        | some callee =>
            simp only [Option.map_some, Option.toList_some, List.singleton_append, List.length_cons]
            omega
      · exact le_max_left _ _
  | _ => exact le_max_left _ _

/-- After an error at most as many calls are active as the limit allows, unless there were more
before. -/
lemma Job.length_calls_le {p : Job} {e : Error} {t : State}
    (h : p.outcome config = .error (.failed e) t) :
    t.calls.length ≤ max p.state.calls.length config.maxCallDepth := by
  induction p using (Job.wellFounded_invokes config).induction generalizing t with
  | _ p ih =>
      obtain ⟨-, hcalls, -⟩ | ⟨q, u, hinvokes, hu, hcalls⟩ := Job.failed_cases h
      · rw [hcalls]
        exact p.length_entered_le config
      · have hinner := ih q hinvokes hu
        have houter := p.length_entered_le config
        rw [hinvokes.calls_eq, hcalls] at hinner
        omega

/-- When the error is that the calls are too deep, as many calls are active as the limit allows. -/
lemma Job.le_length_calls {p : Job} {e : Error} {t : State}
    (h : p.outcome config = .error (.failed e) t) (hlimit : e.IsLimit) :
    config.maxCallDepth ≤ t.calls.length := by
  induction p using (Job.wellFounded_invokes config).induction generalizing t with
  | _ p ih =>
      obtain ⟨-, hcalls, hfull⟩ | ⟨q, u, hinvokes, hu, hcalls⟩ := Job.failed_cases h
      · have hle := hfull hlimit
        rw [hcalls, List.length_append]
        omega
      · rw [← hcalls]
        exact ih q hinvokes hu

end

/-! ### Reports -/

/-- An error is written to the console on a line of its own, behind all that stands there, and then
every active call, newest first. -/
lemma State.lines_reportFailure (s : State) (e : Error) :
    (s.reportFailure e).console.lines.toList =
      s.console.lines.toList ++ ("error: " ++ e.message) ::
        s.calls.map fun c => "  at " ++ c.callee := by
  have hline : ∀ (console : Console) (first second : String),
      (console.log [first, second]).lines.toList = console.lines.toList ++ [first ++ " " ++ second] := by
    intro console first second
    rw [Console.log, Array.toList_push]
    rfl
  have hcalls : ∀ (calls : List CallFrame) (console : Console),
      (calls.foldl (fun console call => console.log ["  at", call.callee]) console).lines.toList
        = console.lines.toList ++ calls.map fun c => "  at" ++ " " ++ c.callee := by
    intro calls
    induction calls with
    | nil => exact fun console => (List.append_nil _).symm
    | cons call rest ih =>
        intro console
        rw [List.foldl_cons, ih, hline, List.map_cons, List.append_assoc, List.singleton_append]
  have hreport : (s.reportFailure e).console.lines =
      (s.calls.foldl (fun console call => console.log ["  at", call.callee])
        (s.console.log ["error:", e.message])).lines := rfl
  rw [hreport, hcalls, hline, List.append_assoc, List.singleton_append]
  rfl

/-- Every job has an effect. -/
lemma Job.exists_effect (config : Config) (p : Job) :
    ∃ names, Effect names p.state (interrupt? (p.outcome config)) (finalState (p.outcome config)) := by
  obtain ⟨task, s⟩ := p
  have henv := s.env_effect config
  cases task with
  | expr e => exact ⟨_, Expr.eval_effect henv e s⟩
  | statement st =>
      exact ⟨_, (Statement.exec_effect henv st).bind (fun _ => hasEffect_pure Value.nil) s⟩
  | statements sts =>
      exact ⟨_, (Statement.execAll_effect henv sts).bind (fun _ => hasEffect_pure Value.nil) s⟩
  | block b => exact ⟨_, Block.eval_effect henv b s⟩
  | call target argument span =>
      exact ⟨_, (callWithin_effect config (s.room config) target argument span).lift s⟩

/-- A job that does not fail leaves the active calls as they were. -/
lemma Job.calls_of_not_failed {config : Config} {p : Job} {v : Value} {t : State}
    (h : p.outcome config = .ok v t ∨ p.outcome config = .error (.returned v) t) :
    t.calls = p.state.calls := by
  obtain ⟨names, heffect⟩ := p.exists_effect config
  obtain h | h := h
  · rw [h] at heffect
    exact heffect.calls_of_settled
  · rw [h] at heffect
    exact heffect.calls.2 (by rintro e ⟨⟩)

/-- **Active calls and traces.** With any settings:

* what ends in a value or a `return` leaves the active calls as they were, in all of evaluation;
* after an error the calls that were entered and not left stand before them, newest first, and there
  are at most as many as the limit allows, unless there were more at the start;
* a program run without active calls ends without active calls, and if it fails, the console shows
  after all lines logged so far one line for the error and one for each call of the trace, newest
  first; when the limit was reached, there are as many of these as it allows. -/
theorem active_calls_and_trace (config : Config) :
    (∀ (p : Job) (v : Value) (t : State),
      p.outcome config = .ok v t ∨ p.outcome config = .error (.returned v) t →
        t.calls = p.state.calls) ∧
    (∀ (p : Job) (e : Error) (t : State), p.outcome config = .error (.failed e) t →
      t.calls.length ≤ max p.state.calls.length config.maxCallDepth ∧
      ∃ trace, p.IsTrace config trace ∧
        t.calls = trace.filterMap (·.entered? config) ++ p.state.calls) ∧
    ∀ (program : Program) (s : State), s.calls = [] →
      (run config program s).2.calls = [] ∧
      ∀ e, (run config program s).1 = .failed e →
        ∃ t trace, execute config program s = .error (.failed e) t ∧
          s.console.lines.toList <+: t.console.lines.toList ∧
          Job.IsTrace config ⟨.statements program, s⟩ trace ∧
          t.calls = trace.filterMap (·.entered? config) ∧
          (run config program s).2.console.lines.toList =
            t.console.lines.toList ++ ("error: " ++ e.message) ::
              t.calls.map (fun c => "  at " ++ c.callee) ∧
          (e.IsLimit → t.calls.length = config.maxCallDepth) := by
  refine ⟨fun p v t => Job.calls_of_not_failed,
    fun p e t h => ⟨Job.length_calls_le h, Job.exists_isTrace h⟩, fun program s hs => ?_⟩
  have hjob : Job.outcome config ⟨.statements program, s⟩
      = (execute config program >>= fun _ => pure Value.nil) s := rfl
  rw [bind_apply] at hjob
  rw [run]
  rcases hrun : execute config program s with ⟨⟨⟩, t⟩ | ⟨v | e, t⟩
  · rw [hrun] at hjob
    have hcalls := Job.calls_of_not_failed (Or.inl hjob)
    exact ⟨hcalls.trans hs, fun e he => by cases he⟩
  · rw [hrun] at hjob
    have hcalls := Job.calls_of_not_failed (Or.inr hjob)
    exact ⟨hcalls.trans hs, fun e he => by cases he⟩
  · rw [hrun] at hjob
    refine ⟨rfl, fun e' he => ?_⟩
    cases he
    obtain ⟨trace, htrace, hcalls⟩ := Job.exists_isTrace hjob
    refine ⟨t, trace, rfl, ?_, htrace, ?_, t.lines_reportFailure e, fun hlimit => ?_⟩
    · obtain ⟨names, heffect⟩ := Job.exists_effect config ⟨.statements program, s⟩
      rw [hjob] at heffect
      exact heffect.lines_prefix
    · have happend : trace.filterMap (·.entered? config) ++ s.calls
          = trace.filterMap (·.entered? config) := by rw [hs, List.append_nil]
      exact hcalls.trans happend
    · have hle : t.calls.length ≤ max s.calls.length config.maxCallDepth := Job.length_calls_le hjob
      rw [hs, List.length_nil, Nat.zero_max] at hle
      exact le_antisymm hle (Job.le_length_calls hjob hlimit)

/-- A program logs a line and calls a function, which calls another, in which a name is not defined:
the console shows the line, the error and both calls, the inner one first. -/
theorem trace_of_nested_calls :
    let x : Expr := .identifier "x" default
    let inner : Statement :=
      .function "inner" [(x, .mk [] (some (.identifier "missing" default)))] default
    let outer : Statement :=
      .function "outer" [(x, .mk [] (some (.call (.identifier "inner" default) x default)))] default
    let start : Expr := .literal (.string "start") default
    let program : Program := [.log start default, inner, outer,
      .expression (.call (.identifier "outer" default) start default) default]
    State.initial.calls = [] ∧ (run default program .initial).2.calls = [] ∧
      (∃ trace, Job.IsTrace default ⟨.statements program, .initial⟩ trace ∧
        trace.filterMap (·.entered? default)
          = [⟨"inner", some default⟩, ⟨"outer", some default⟩]) ∧
      (run default program .initial).2.console.lines.toList
        = ["start", "error: Unresolved identifier `missing`", "  at inner", "  at outer"] := by
  intro x inner outer start program
  have hreport : (run default program .initial).1
      = .failed (.fault (.unresolvedIdentifier "missing") (some default)) := rfl
  obtain ⟨hcalls, hfailed⟩ := (active_calls_and_trace default).2.2 program .initial rfl
  obtain ⟨t, trace, hrun, -, htrace, hframes, hlines, -⟩ := hfailed _ hreport
  have ht : finalState (execute default program .initial) = t := by rw [hrun, finalState]
  have hactive : t.calls = [⟨"inner", some default⟩, ⟨"outer", some default⟩] := by
    rw [← ht]
    decide +kernel
  have hlogged : t.console.lines.toList = ["start"] := by
    rw [← ht]
    decide +kernel
  refine ⟨rfl, hcalls, ⟨trace, htrace, hframes.symm.trans hactive⟩, ?_⟩
  rw [hlines, hactive, hlogged]
  rfl

end RecordLang
