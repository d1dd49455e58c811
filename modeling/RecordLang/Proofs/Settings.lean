import RecordLang.Proofs.CallTrace
import RecordLang.Proofs.Coupling.Evaluation

/-!
What the settings of an evaluator decide.

The policy on second definitions decides what a second definition does, and the limit on calls how deep
they go, and neither decides anything else. So a program runs alike under two settings up to the point
where the stricter ones make it fail. If that point is not reached, the runs do not differ at all; if it
is, the run under the other settings has logged the same lines there and goes on.

* `Coupling.settings`: two runs from the same state under different settings.
* `runs_agree_until_departure`: such runs are equal, or the first departs.
* `policies_differ_at_redefinitions`: strict and permissive runs.
* `greater_limit_keeps_runs`: runs with a smaller and a greater limit on calls.
-/

namespace RecordLang

/-! ### Runs under different settings -/

/-- Two runs from the same state, of which the first may depart. -/
def Coupling.settings (departure? : Error → Option (List String))
    (h : ∀ e, e.IsOrdinary → departure? e = none) : Coupling :=
  .whole [] [] (fun e e' => e' = e ∧ departure? e = none) (fun e he => ⟨rfl, h e he⟩) departure?

/-- Such runs are in step where their states are equal. -/
lemma Coupling.inStep_settings_iff {departure? : Error → Option (List String)}
    {h : ∀ e, e.IsOrdinary → departure? e = none} {s t : State} :
    (settings departure? h).InStep s t ↔ t = s := by
  rw [settings, inStep_whole_iff]
  simp only [List.append_nil]
  exact ⟨fun ⟨_, hcalls, ht⟩ => by rw [ht, ← hcalls], fun ht => ⟨s.calls, rfl, ht⟩⟩

/-- A run shows all lines that its program logs. -/
lemma lines_execute_prefix (config : Config) (program : Program) (s : State) :
    (finalState (execute config program s)).console.lines.toList
      <+: (run config program s).2.console.lines.toList := by
  rw [run]
  rcases execute config program s with ⟨⟨⟩, t⟩ | ⟨v | e, t⟩
  · exact List.prefix_rfl
  · exact List.prefix_rfl
  · show t.console.lines.toList <+: (t.reportFailure e).console.lines.toList
    rw [t.lines_reportFailure e]
    exact List.prefix_append _ _

/-- Runs under different settings are equal up to a departure of the first: without one they are equal,
and where there is one, the second run has logged the same lines and goes on to log more. -/
theorem runs_agree_until_departure {departure? : Error → Option (List String)}
    (h : ∀ e, e.IsOrdinary → departure? e = none) {config config' : Config} {extra : Nat}
    (hdefine : ∀ name v span,
      Coupled (.settings departure? h) (Coupling.settings departure? h).InStep (fun _ => True)
        (define config.redefinition name v span) (define config'.redefinition name v span))
    (hfull : (Coupling.settings departure? h).Calls config config' 0 extra) (program : Program)
    {s : State} (hroom : s.room config' = s.room config + extra) :
    ((∀ e, (run config program s).1 = .failed e → departure? e = none) →
      run config' program s = run config program s) ∧
    ∀ e lines, (run config program s).1 = .failed e → departure? e = some lines →
      ∃ t, execute config program s = .error (.failed e) t ∧
        (run config program s).2.console.lines.toList = t.console.lines.toList ++
          ("error: " ++ e.message) :: t.calls.map (fun c => "  at " ++ c.callee) ∧
        t.console.lines.toList ++ lines <+: (run config' program s).2.console.lines.toList := by
  have henv := Coupling.environments (fun name v span _ => hdefine name v span) hfull (s.room config)
  have houtcome := Statement.execAll_coupled henv program s s (Coupling.inStep_settings_iff.mpr rfl)
  rw [← hroom] at houtcome
  have hexecute : ∀ config, Statement.execAll (config.env (s.room config)) program s
      = execute config program s := fun _ => rfl
  rw [hexecute, hexecute] at houtcome
  have hlines := lines_execute_prefix config' program s
  -- a run looks at nothing but the outcome of its program
  rw [run] at hlines
  rw [run, run]
  generalize execute config program s = r at houtcome ⊢
  generalize execute config' program s = r' at houtcome hlines ⊢
  cases houtcome with
  | ok _ hst =>
      obtain rfl := Coupling.inStep_settings_iff.mp hst
      exact ⟨fun _ => rfl, fun e lines he => by cases he⟩
  | @error i i' t t' hi hst =>
      obtain rfl := Coupling.inStep_settings_iff.mp hst
      obtain hv | ⟨rfl, hnone⟩ := hi
      · exact ⟨fun _ => rfl, fun e lines he => by cases he⟩
      · refine ⟨fun _ => rfl, fun e lines he hdeparture => ?_⟩
        cases he
        cases hnone.symm.trans hdeparture
  | @departed i t _ e lines he hdeparture hprefix =>
      obtain rfl : i = .failed e := he
      refine ⟨fun hnone => ?_, fun e' lines' he' hdeparture' => ?_⟩
      · cases (hnone e rfl).symm.trans hdeparture
      · cases he'
        cases hdeparture.symm.trans hdeparture'
        exact ⟨t, rfl, t.lines_reportFailure e, hprefix.trans hlines⟩

/-! ### The policy on second definitions -/

/-- The line that a permissive run logs where a strict run fails. -/
def Error.warning? : Error → Option (List String)
  | .fault (.redefinition x) _ => some ["warning: `" ++ x ++ "` is redefined"]
  | _ => none

lemma Error.warning?_eq_none {e : Error} (h : ∀ x span, e ≠ .fault (.redefinition x) span) :
    e.warning? = none := by
  unfold Error.warning?
  split
  · next x span => exact absurd rfl (h x span)
  · rfl

lemma Error.warning?_of_isOrdinary (e : Error) (h : e.IsOrdinary) : e.warning? = none := by
  refine Error.warning?_eq_none fun x span he => ?_
  rw [he] at h
  exact h

/-- A strict run and a permissive one. -/
abbrev Coupling.policies : Coupling :=
  .settings Error.warning? Error.warning?_of_isOrdinary

/-- Where the strict policy refuses a definition, the permissive one warns and goes on. -/
lemma coupled_define_policies (name : String) (v : Value) (span : Span) :
    Coupled .policies Coupling.policies.InStep (fun _ => True) (define .strict name v span)
      (define .permissive name v span) := by
  intro s t hst
  obtain rfl := Coupling.inStep_settings_iff.mp hst
  rw [define, define, get_bind_apply, get_bind_apply]
  split
  · refine .departed rfl rfl ?_
    -- the two parts of the warning, joined by a space
    show _ <+: (t.console.lines.push ("warning: `" ++ name ++ "` is redefined")).toList
    rw [Array.toList_push]
  · exact .ok trivial (hst.bindTop name (Region.has_all v))

/-- **Strict and permissive runs differ at second definitions only.** Let a program run from the same
state under both policies. If the strict run does not report a second definition, the permissive run
gives the same report and ends in the same state. If it does, the lines that it had logged before the
error, followed by the warning, are the first lines of the permissive run. -/
theorem policies_differ_at_redefinitions (maxCallDepth : Nat) (program : Program) (s : State) :
    let strict := run ⟨.strict, maxCallDepth⟩ program s
    let permissive := run ⟨.permissive, maxCallDepth⟩ program s
    ((∀ x span, strict.1 ≠ .failed (.fault (.redefinition x) span)) → permissive = strict) ∧
    ∀ x span, strict.1 = .failed (.fault (.redefinition x) span) →
      ∃ t, execute ⟨.strict, maxCallDepth⟩ program s
          = .error (.failed (.fault (.redefinition x) span)) t ∧
        strict.2.console.lines.toList = t.console.lines.toList ++
          ("error: " ++ (Error.fault (.redefinition x) span).message) ::
            t.calls.map (fun c => "  at " ++ c.callee) ∧
        t.console.lines.toList ++ ["warning: `" ++ x ++ "` is redefined"]
          <+: permissive.2.console.lines.toList := by
  intro strict permissive
  have hfull : Coupling.policies.Calls ⟨.strict, maxCallDepth⟩ ⟨.permissive, maxCallDepth⟩ 0 0 :=
    Coupling.calls_zero fun span => ⟨rfl, rfl⟩
  obtain ⟨hequal, hdeparts⟩ :=
    runs_agree_until_departure _ coupled_define_policies hfull program (s := s) rfl
  refine ⟨fun hno => hequal fun e he => Error.warning?_eq_none ?_,
    fun x span he => hdeparts _ _ he rfl⟩
  rintro x span rfl
  exact hno x span he

/-- A program that defines a name and logs a line runs alike under both policies. With a second definition
behind, the strict run fails and the permissive run logs the warning after the line. -/
theorem second_definition_warns_when_permissive :
    let program : Program := [.const "x" (.literal .null default) default,
      .log (.literal (.string "start") default) default]
    let again : Program := program ++ [.const "x" (.literal (.boolean true) default) default]
    run ⟨.permissive, 256⟩ program .initial = run ⟨.strict, 256⟩ program .initial ∧
      (run ⟨.strict, 256⟩ again .initial).1 = .failed (.fault (.redefinition "x") (some default)) ∧
      ["start", "warning: `x` is redefined"]
        <+: (run ⟨.permissive, 256⟩ again .initial).2.console.lines.toList := by
  intro program again
  have hfinished : (run ⟨.strict, 256⟩ program .initial).1 = .finished := rfl
  have hfailed : (run ⟨.strict, 256⟩ again .initial).1
      = .failed (.fault (.redefinition "x") (some default)) := rfl
  refine ⟨(policies_differ_at_redefinitions 256 program .initial).1 fun x span he => ?_, hfailed, ?_⟩
  · cases hfinished.symm.trans he
  · obtain ⟨t, hexecute, -, hprefix⟩ :=
      (policies_differ_at_redefinitions 256 again .initial).2 "x" (some default) hfailed
    have hlogged : t.console.lines.toList = ["start"] := by
      have ht : finalState (execute ⟨.strict, 256⟩ again .initial) = t := by rw [hexecute, finalState]
      rw [← ht]
      decide +kernel
    rw [hlogged] at hprefix
    exact hprefix

/-! ### The limit on calls -/

lemma Error.IsOrdinary.not_isLimit {e : Error} (h : e.IsOrdinary) : ¬ e.IsLimit := by
  unfold Error.IsLimit
  split
  · exact fun _ => h
  · exact id

/-- Where a run reaches its limit, a run with a greater one goes on without a line about it. -/
def Error.overrun? : Error → Option (List String)
  | .fault (.recursionLimit _) _ => some []
  | _ => none

lemma Error.overrun?_of_isLimit {e : Error} (h : e.IsLimit) : e.overrun? = some [] := by
  unfold Error.IsLimit at h
  split at h
  · rfl
  · exact h.elim

lemma Error.overrun?_eq_none {e : Error} (h : ¬ e.IsLimit) : e.overrun? = none := by
  unfold Error.overrun?
  split
  · exact absurd trivial h
  · rfl

/-- A run and one with a greater limit. -/
abbrev Coupling.limits : Coupling :=
  .settings Error.overrun? fun _ h => Error.overrun?_eq_none h.not_isLimit

/-- With no place left for a call the first run fails. Whatever the second does, it has logged as much
before. -/
lemma calls_limits (policy : Redefinition) (d d' extra : Nat) :
    Coupling.limits.Calls ⟨policy, d⟩ ⟨policy, d'⟩ 0 extra := by
  intro target argument span _ hargument
  cases htarget : target.callee? with
  | none => exact coupled_unrecorded htarget hargument span 0 extra
  | some callee =>
      rw [callWithin_zero htarget]
      intro s t hst
      refine .departed rfl rfl ?_
      rw [List.append_nil, ← hst.console]
      exact (callWithin_effect _ extra target argument span).addsLines t

/-- **A greater limit changes no result.** Let a program run from the same state with two limits on
calls. If the run with the smaller limit does not report that it was reached, the other run gives the
same report and ends in the same state. If it does, the lines that it had logged before the error are
the first lines of the other run. -/
theorem greater_limit_keeps_runs (policy : Redefinition) {d d' : Nat} (hle : d ≤ d')
    (program : Program) (s : State) :
    let low := run ⟨policy, d⟩ program s
    let high := run ⟨policy, d'⟩ program s
    ((∀ e, low.1 = .failed e → ¬ e.IsLimit) → high = low) ∧
    ∀ e, low.1 = .failed e → e.IsLimit →
      ∃ t, execute ⟨policy, d⟩ program s = .error (.failed e) t ∧
        low.2.console.lines.toList = t.console.lines.toList ++
          ("error: " ++ e.message) :: t.calls.map (fun c => "  at " ++ c.callee) ∧
        t.console.lines.toList <+: high.2.console.lines.toList := by
  intro low high
  have hdefine : ∀ name v span, Coupled .limits Coupling.limits.InStep (fun _ => True)
      (define policy name v span) (define policy name v span) :=
    fun name v span => coupled_define policy name (Region.has_all v) span ⟨rfl, rfl⟩
  have hroom : s.room ⟨policy, d'⟩
      = s.room ⟨policy, d⟩ + (s.room ⟨policy, d'⟩ - s.room ⟨policy, d⟩) := by
    simp only [State.room]
    omega
  obtain ⟨hequal, hdeparts⟩ :=
    runs_agree_until_departure _ hdefine (calls_limits policy d d' _) program hroom
  refine ⟨fun hno => hequal fun e he => Error.overrun?_eq_none (hno e he), fun e he hlimit => ?_⟩
  obtain ⟨t, hexecute, hlow, hprefix⟩ := hdeparts e [] he (Error.overrun?_of_isLimit hlimit)
  rw [List.append_nil] at hprefix
  exact ⟨t, hexecute, hlow, hprefix⟩

/-- A program logs a line and calls a function. With the limit 1 it runs as with the limit 5. With the
limit 0 it fails at the call, and the line is logged with the limit 1 too. -/
theorem limit_one_suffices_for_one_call :
    let x : Expr := .identifier "x" default
    let start : Expr := .literal (.string "start") default
    let program : Program := [.log start default, .function "echo" [(x, .mk [] (some x))] default,
      .expression (.call (.identifier "echo" default) start default) default]
    run ⟨.strict, 5⟩ program .initial = run ⟨.strict, 1⟩ program .initial ∧
      (run ⟨.strict, 0⟩ program .initial).1
        = .failed (.fault (.recursionLimit 0) (some default)) ∧
      ["start"] <+: (run ⟨.strict, 1⟩ program .initial).2.console.lines.toList := by
  intro x start program
  have hfinished : (run ⟨.strict, 1⟩ program .initial).1 = .finished := rfl
  have hfailed : (run ⟨.strict, 0⟩ program .initial).1
      = .failed (.fault (.recursionLimit 0) (some default)) := rfl
  refine ⟨(greater_limit_keeps_runs .strict (by decide : 1 ≤ 5) program .initial).1 fun e he => ?_,
    hfailed, ?_⟩
  · cases hfinished.symm.trans he
  · obtain ⟨t, hexecute, -, hprefix⟩ :=
      (greater_limit_keeps_runs .strict (by decide : 0 ≤ 1) program .initial).2 _ hfailed trivial
    have hlogged : t.console.lines.toList = ["start"] := by
      have ht : finalState (execute ⟨.strict, 0⟩ program .initial) = t := by rw [hexecute, finalState]
      rw [← ht]
      decide +kernel
    rw [hlogged] at hprefix
    exact hprefix

end RecordLang
