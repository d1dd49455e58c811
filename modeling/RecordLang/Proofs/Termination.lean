import RecordLang.Proofs.Invocation.Coverage

/-!
Evaluation terminates.

The rules of evaluation refer to one another, and through function values held in the store a body can
refer to itself. Following the references comes to an end all the same: what is recorded for a call
takes one of finitely many places, and between two recorded calls only smaller text is evaluated. The
places are free again when a call has ended, so the pair of free places and size of text decreases
lexicographically from every job to those it invokes, whatever has been evaluated before them.

* `unfolded`: the rules, followed to a given depth.
* `Job.exists_isSettledBy`: some depth is enough for a job, and a greater depth changes nothing.
* `evaluation_terminates`: the main statement, with the measure written out.
-/

namespace RecordLang

/-- The rules of evaluation, followed `depth` references deep. What comes up deeper is not evaluated,
and gets its answer from `bottom`. -/
def unfolded (config : Config) (bottom : Task → Eval Value) : Nat → Task → Eval Value
  | 0 => bottom
  | depth + 1 => Task.step config (unfolded config bottom depth)

/-- Following the rules `depth` references deep is enough for a job: its outcome is reached, no answer
from the bottom is used, and the same holds at every greater depth. -/
def Job.IsSettledBy (config : Config) (p : Job) (depth : Nat) : Prop :=
  ∀ n ≥ depth, ∀ bottom : Task → Eval Value,
    unfolded config bottom n p.task p.state = p.outcome config

section

variable {config : Config}

lemma Job.IsSettledBy.mono {p : Job} {depth depth' : Nat} (h : p.IsSettledBy config depth)
    (hle : depth ≤ depth') : p.IsSettledBy config depth' :=
  fun n hn => h n (hle.trans hn)

/-- Finitely many jobs have a depth that is enough for all of them. -/
lemma Job.exists_isSettledBy_forall {jobs : List Job}
    (h : ∀ p ∈ jobs, ∃ depth, p.IsSettledBy config depth) :
    ∃ depth, ∀ p ∈ jobs, p.IsSettledBy config depth := by
  induction jobs with
  | nil => exact ⟨0, by simp⟩
  | cons p rest ih =>
      obtain ⟨depth, hp⟩ := h p List.mem_cons_self
      obtain ⟨depth', hrest⟩ := ih fun q hq => h q (List.mem_cons_of_mem p hq)
      refine ⟨max depth depth', fun q hq => ?_⟩
      obtain rfl | hq := List.mem_cons.mp hq
      · exact hp.mono (le_max_left depth depth')
      · exact (hrest q hq).mono (le_max_right depth depth')

/-- Some depth is enough for every job: one more than what is enough for the finitely many jobs that
cover it. -/
lemma Job.exists_isSettledBy (p : Job) : ∃ depth, p.IsSettledBy config depth := by
  induction p using (Job.wellFounded_invokes config).induction with
  | _ p ih =>
      obtain ⟨asked, hinvoked, hsettled, -⟩ := p.isCovered config
      have hasked : ∀ q ∈ asked, ∃ depth, q.IsSettledBy config depth :=
        fun q hq => ih q (hinvoked q hq)
      obtain ⟨depth, hdepth⟩ := exists_isSettledBy_forall hasked
      refine ⟨depth + 1, fun n hn bottom => ?_⟩
      obtain ⟨m, rfl⟩ : ∃ m, n = m + 1 := ⟨n - 1, by omega⟩
      have hm : depth ≤ m := by omega
      exact hsettled (unfolded config bottom m) fun q hq => hdepth q hq m hm bottom

end

/-- **Evaluation terminates.** With any settings and from any state, however many calls are active:

* a job invokes only jobs that have fewer free places for calls, or as many and less text;
* finitely many of these, answered as evaluation does, settle what the rules give for the job;
* the rules, followed deep enough, give the outcome of the job, a value, a `return` or an error, and
  nothing changes when they are followed deeper;
* so it is for programs as the interpreter runs them. -/
theorem evaluation_terminates (config : Config) :
    (∀ p q : Job, p.Invokes config q →
      q.state.room config < p.state.room config ∨
        q.state.room config = p.state.room config ∧ q.task.size < p.task.size) ∧
    (∀ p : Job, ∃ asked : List Job, (∀ q ∈ asked, p.Invokes config q) ∧
      ∀ answer : Task → Eval Value, (∀ q ∈ asked, answer q.task q.state = q.outcome config) →
        p.task.step config answer p.state = p.outcome config) ∧
    (∀ p : Job, ∃ depth, ∀ n ≥ depth, ∀ bottom : Task → Eval Value,
      unfolded config bottom n p.task p.state = p.outcome config) ∧
    ∀ (program : Program) (s : State), ∃ depth, ∀ n ≥ depth, ∀ bottom : Task → Eval Value,
      Functor.discard (unfolded config bottom n (.statements program)) s
        = execute config program s := by
  refine ⟨fun p q h => ?_, fun p => ?_, fun p => p.exists_isSettledBy, fun program s => ?_⟩
  · exact Prod.Lex.toLex_lt_toLex.mp h.measure_lt
  · obtain ⟨asked, hinvoked, hsettled, -⟩ := p.isCovered config
    exact ⟨asked, hinvoked, hsettled⟩
  · obtain ⟨depth, hdepth⟩ := Job.exists_isSettledBy ⟨.statements program, s⟩
    refine ⟨depth, fun n hn bottom => ?_⟩
    have hprogram : unfolded config bottom n (.statements program) s
        = (execute config program >>= fun _ => pure Value.nil) s := hdepth n hn bottom
    rw [discard_apply, hprogram, ← discard_apply, discard_bind_pure]

/-- A function that applies its argument to itself, applied to itself: with two places for calls it is
entered twice, each time with one place less, and the third call is an error at every depth from some
point on. -/
theorem self_application_terminates :
    let config : Config := { maxCallDepth := 2 }
    let x : Expr := .identifier "x" default
    let body : Block := .mk [] (some (.call x x default))
    let f : MatchFunction := ⟨0, "apply", [(x, body)], ⟨[], ⟨0⟩⟩⟩
    let p : Job := ⟨.call (.function f) (.function f) default, .initial⟩
    let q : Job := ⟨.block body, State.enterFrame { State.initial.calling ⟨"apply", some default⟩
      with scope := ⟨[], ⟨0⟩⟩ } (.ofList [("x", .function f)])⟩
    p.Invokes config q ∧ q.state.room config < p.state.room config ∧
      ∃ depth, ∀ n ≥ depth, ∀ bottom : Task → Eval Value,
        interrupt? (unfolded config bottom n p.task p.state)
          = some (.failed (.fault (.recursionLimit 2) (some default))) := by
  intro config x body f p q
  have hinvokes : p.Invokes config q := .function (by decide) rfl
  have hroom : q.state.room config ≠ p.state.room config := by decide
  have hterminates := evaluation_terminates config
  refine ⟨hinvokes, (hterminates.1 p q hinvokes).resolve_right fun h => hroom h.1, ?_⟩
  obtain ⟨depth, hdepth⟩ := hterminates.2.2.1 p
  refine ⟨depth, fun n hn bottom => ?_⟩
  rw [hdepth n hn bottom]
  rfl

end RecordLang
