import RecordLang.Proofs.Coupling.Evaluation

/-!
Functions and matches.

A function is called by choosing among its arms, as a match chooses among its own. The call does more: it
is recorded, it enters the scope of the function and puts the scope of the caller back. Where the
function sees the current scope, none of this can be told from the outcome, but for the records that a
failing call leaves and the number of the limit in an error.

* `matchArms`, `Expr.eval_select_eq_matchArms`: a match, and the expression that makes it.
* `SameOutcome`: outcomes that are the same but for active calls and the number of the limit.
* `call_agrees_with_match`: a call of a function agrees with a match that has its arms.
-/

namespace RecordLang

/-- Runs the first arm that matches a value, with the places for calls that the state leaves. -/
def matchArms (config : Config) (v : Value) (arms : List Arm) (span : Span) : Eval Value := fun s =>
  choose v (Block.evalArms (config.env (s.room config)) arms) span s

/-- This is what a match does when its subject has a value. -/
lemma Expr.eval_select_eq_matchArms {config : Config} {subject : Expr} {s t : State} {v : Value}
    (h : subject.eval (s.env config) s = .ok v t) (arms : List Arm) (span : Span) :
    Expr.eval (s.env config) (.select subject arms span) s = matchArms config v arms span t := by
  rw [Expr.eval, bind_apply, h]
  show choose v (Block.evalArms (s.env config) arms) span t
    = choose v (Block.evalArms (t.env config) arms) span t
  rw [State.env_eq (Expr.calls_of_eval h)]

/-! ### Outcomes that are the same -/

/-- The error but for the number of the limit. -/
def Error.withoutLimit : Error → Error
  | .fault (.recursionLimit _) span => .fault (.recursionLimit 0) span
  | e => e

/-- The same value or the same error, but for the number of the limit, in the same state, but for the
calls that are active. -/
structure SameOutcome (r r' : EStateM.Result Error State Value) : Prop where
  result : (ending r).mapError Error.withoutLimit = (ending r').mapError Error.withoutLimit
  store : (finalState r).store = (finalState r').store
  scope : (finalState r).scope = (finalState r').scope
  types : (finalState r).types = (finalState r').types
  console : (finalState r).console = (finalState r').console

lemma SameOutcome.trans {r r' r'' : EStateM.Result Error State Value} (h : SameOutcome r r')
    (h' : SameOutcome r' r'') : SameOutcome r r'' :=
  ⟨h.result.trans h'.result, h.store.trans h'.store, h.scope.trans h'.scope, h.types.trans h'.types,
    h.console.trans h'.console⟩

/-- Recording a call changes nothing but the calls that are active. -/
lemma sameOutcome_recordingCall {x : Run Value} (h : HasEffect [] x) (callee : String) (span : Span)
    (s : State) :
    SameOutcome (recordingCall callee span x s)
      (x { s with calls := ⟨callee, some span⟩ :: s.calls }) := by
  rw [recordingCall_apply h]
  cases x { s with calls := ⟨callee, some span⟩ :: s.calls } with
  | ok v t => exact ⟨rfl, rfl, rfl, rfl, rfl⟩
  | error e t => exact ⟨rfl, rfl, rfl, rfl, rfl⟩

/-- Two runs, the first inside of one more call. Their limits may differ. -/
def Coupling.inside (c : CallFrame) (calls : List CallFrame) : Coupling :=
  .whole (c :: calls) calls (fun e e' => e.withoutLimit = e'.withoutLimit) (fun _ _ => rfl)
    fun _ => none

/-- Such runs start in states that differ by the call. -/
lemma Coupling.inStep_inside (c : CallFrame) (s : State) :
    (inside c s.calls).InStep { s with calls := c :: s.calls } s :=
  inStep_whole_iff.mpr ⟨[], rfl, rfl⟩

/-- Such runs have the same outcome. -/
lemma Coupling.sameOutcome_of_inside {c : CallFrame} {calls : List CallFrame} {P : Value → Prop}
    {r r' : EStateM.Result Error State Value}
    (h : (inside c calls).Corresponds (inside c calls).InStep P r r') : SameOutcome r r' := by
  cases h with
  | ok _ hst =>
      obtain ⟨recorded, -, rfl⟩ := inStep_whole_iff.mp hst
      exact ⟨rfl, rfl, rfl, rfl, rfl⟩
  | error hi hst =>
      obtain ⟨recorded, -, rfl⟩ := inStep_whole_iff.mp hst
      obtain _ | hsame := hi
      exact ⟨congrArg Except.error hsame, rfl, rfl, rfl, rfl⟩
  | departed _ hdeparture _ => cases hdeparture

/-! ### Calls in the current scope -/

/-- Entering the current scope changes nothing for an action that restores it. -/
lemma withScope_self {α : Type} {names : List String} {x : Eval α} (h : HasEffect names x)
    (s : State) : withScope s.scope x s = x s := by
  have hscope := (h s).scope_eq
  have hself : ∀ t : State, t.scope = s.scope → { t with scope := s.scope } = t := by
    rintro ⟨⟩ rfl
    rfl
  rw [withScope_apply]
  cases hx : x s with
  | ok a t =>
      rw [hx] at hscope
      exact congrArg (EStateM.Result.ok a) (hself t hscope)
  | error i t =>
      rw [hx] at hscope
      exact congrArg (EStateM.Result.error i) (hself t hscope)

/-- A function that sees the current scope chooses among its arms as a match does. -/
lemma MatchFunction.runWith_self {env : Env} (henv : env.CallsHaveEffect) (f : MatchFunction)
    (v : Value) (span : Span) {s : State} (hs : f.scope = s.scope) :
    f.runWith (Block.eval env) v span s = choose v (Block.evalArms env f.arms) span s := by
  have heffect : HasEffect [] (choose v (Block.evalArms env f.arms) span) :=
    hasEffect_choose (Block.evalArms_effect henv f.arms)
  rw [MatchFunction.runWith, ← Block.evalArms_eq, hs, withScope_self heffect]

/-- **A call of a function agrees with a match that has its arms.** Let at most `d` calls be active, and
let a function see the current scope. Calling it with a limit of `d + 1` calls and choosing among its
arms with a limit of `d` give the same value, or the same error but for the number of the limit; and
they leave the same frames, lists and records, the same scope, the same types and the same console. -/
theorem call_agrees_with_match (policy : Redefinition) (d : Nat) (s : State) (hs : s.calls.length ≤ d)
    (id : Nat) (name : String) (arms : List Arm) (v : Value) (span : Span) :
    SameOutcome (call ⟨policy, d + 1⟩ (.function ⟨id, name, arms, s.scope⟩) v span s)
      (settle (matchArms ⟨policy, d⟩ v arms span) s) := by
  let f : MatchFunction := ⟨id, name, arms, s.scope⟩
  let c : CallFrame := ⟨name, some span⟩
  let k : Coupling := .inside c s.calls
  let room : Nat := s.room ⟨policy, d⟩
  have hroom : s.room ⟨policy, d + 1⟩ = room + 1 := by
    simp only [State.room, room]
    omega
  have hfull : k.Calls ⟨policy, d + 1⟩ ⟨policy, d⟩ 0 0 := k.calls_zero fun _ => rfl
  have henv : k.Environments (Config.env ⟨policy, d + 1⟩ room) (Config.env ⟨policy, d⟩ room) :=
    k.environments (fun name v span hv => coupled_define policy name hv span rfl) hfull room
  -- the body of the function, with the call recorded and without
  have hbody := (f.runWith_coupled henv (fun _ _ => Set.mem_univ _) (Region.has_all v)
    span).settle.inStep (f.runWith_effect henv.effect).settle (f.runWith_effect henv.effect').settle
  have hmatch : settle (f.runWith (Block.eval (Config.env ⟨policy, d⟩ room)) v span) s
      = settle (matchArms ⟨policy, d⟩ v arms span) s := by
    rw [settle_apply, f.runWith_self henv.effect' v span rfl]
    rfl
  rw [call, hroom, callWithin_function, ← hmatch]
  exact (sameOutcome_recordingCall (f.runWith_effect henv.effect).settle name span s).trans
    (Coupling.sameOutcome_of_inside (hbody _ s (Coupling.inStep_inside c s)))

/-- An arm logs a line and calls the value that is matched, with no place left for the call. The function
with this arm and the match fail alike, with the numbers 1 and 0 of their limits, and both log the line. -/
theorem last_place_in_call_and_match :
    let x : Expr := .identifier "x" default
    let arms : List Arm :=
      [(x, .mk [.log (.literal (.string "start") default) default] (some (.call x x default)))]
    let called := call ⟨.strict, 1⟩ (.function ⟨0, "f", arms, State.initial.scope⟩) (.native .length)
      default .initial
    let matched := settle (matchArms ⟨.strict, 0⟩ (.native .length) arms default) .initial
    State.initial.calls.length ≤ 0 ∧
      ending called = .error (.fault (.recursionLimit 1) (some default)) ∧
      (ending matched).mapError Error.withoutLimit
        = .error (.fault (.recursionLimit 0) (some default)) ∧
      (finalState matched).console.lines = #["start"] := by
  intro x arms called matched
  have hcalls : State.initial.calls.length ≤ 0 := le_rfl
  have hcalled : ending called = .error (.fault (.recursionLimit 1) (some default)) := rfl
  have hlines : (finalState called).console.lines = #["start"] := by decide +kernel
  have hsame := call_agrees_with_match .strict 0 .initial hcalls 0 "f" arms (.native .length) default
  refine ⟨hcalls, hcalled, ?_, ?_⟩
  · rw [← hsame.result, hcalled]
    rfl
  · rw [← hsame.console]
    exact hlines

end RecordLang
