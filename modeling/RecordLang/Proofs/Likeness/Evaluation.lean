import RecordLang.Proofs.CallTrace
import RecordLang.Proofs.Coupling.Steps
import RecordLang.Proofs.Likeness

/-!
Evaluation respects lawful likenesses.

One use of the rules leads from states that are alike to outcomes that agree, if the answers to all
further tasks do. So the same text has outcomes that agree in states that are alike. Where a likeness
allows only some pushes, the calls of `push` that succeed on the way must be among them; this is shown
for likenesses that relate each state to itself alone.

* `Job.Pushes`: a call of `push` that succeeds.
* `Job.push_cases`: what a call of `push` does, and when it succeeds.
* `Likeness.Lawful.agree_step`: one use of the rules.
* `Likeness.Lawful.agree`: two states that are alike.
* `Likeness.Lawful.agree_self`: one state, with conditions on what is pushed.
-/

namespace RecordLang

/-! ### Calls of `push` -/

/-- The job is a call of `push` that succeeds, with the list `l` and the item `v`. -/
structure Job.Pushes (config : Config) (q : Job) (l : ListRef) (v : Value) : Prop where
  call : ∃ r span, q.task = .call (.native .push) (.record r) span ∧
    (q.state.store.record r).find? "list" = some (.list l) ∧
    (q.state.store.record r).find? "item" = some v
  succeeds : ∃ w t, q.outcome config = .ok w t

section

variable {config : Config} {s : State}

/-- A call of a native function finds a place, and ends as the function does. -/
lemma Job.outcome_native (hroom : s.calls.length < config.maxCallDepth) (f : Native) (argument : Value)
    (span : Span) :
    Job.outcome config ⟨.call (.native f) argument span, s⟩ =
      match f.apply argument (some span) (s.calling ⟨f.name, some span⟩) with
      | .ok v t => .ok v { t with calls := s.calls }
      | .error e t => .error (.failed e) t := by
  have hcall : Job.outcome config ⟨.call (.native f) argument span, s⟩ =
      (liftM (recordingCall f.name span (f.call argument span)) : Eval Value) s := by
    show (liftM (callWithin config (s.room config) _ argument span) : Eval Value) s = _
    rw [State.room_eq_succ ⟨f.name, some span⟩ hroom]
    rfl
  rw [hcall, lift_apply, recordingCall_apply (hasEffect_native f argument _), f.call_eq_apply]
  show _ = match f.apply argument (some span) { s with calls := _ :: s.calls } with
    | .ok v t => _
    | .error e t => _
  cases f.apply argument (some span) { s with calls := ⟨f.name, some span⟩ :: s.calls } <;> rfl

/-- `push` adds the item at the end of the list. -/
lemma Native.push_apply {r : RecordRef} {l : ListRef} {v : Value}
    (hlist : (s.store.record r).find? "list" = some (.list l))
    (hitem : (s.store.record r).find? "item" = some v) (span : Option Span) :
    Native.push.apply (.record r) span s = .ok (.list l) { s with store := s.store.append l v } := by
  rw [push_apply_record, pushField, pushField, hlist, hitem]
  rfl

/-- Where `push` finds no list and item, it leaves the state as it was. -/
lemma Native.push_cases (argument : Value) (span : Option Span) (s : State) :
    (∃ r l v, argument = .record r ∧ (s.store.record r).find? "list" = some (.list l) ∧
      (s.store.record r).find? "item" = some v) ∨
    ∃ e, Native.push.apply argument span s = .error e s := by
  cases argument with
  | record r =>
      rw [push_apply_record, pushField, pushField]
      cases hlist : (s.store.record r).find? "list" with
      | none => exact Or.inr ⟨_, rfl⟩
      | some target =>
          cases hitem : (s.store.record r).find? "item" with
          | none => exact Or.inr ⟨_, rfl⟩
          | some v =>
              cases target with
              | list l => exact Or.inl ⟨r, l, v, rfl, hlist, hitem⟩
              | _ => exact Or.inr ⟨_, rfl⟩
  | _ => exact Or.inr ⟨_, rfl⟩

/-- A call of `push` with a list and an item succeeds where it finds a place. -/
lemma Job.pushes_of_room (hroom : s.calls.length < config.maxCallDepth) {r : RecordRef} {l : ListRef}
    {v : Value} (hlist : (s.store.record r).find? "list" = some (.list l))
    (hitem : (s.store.record r).find? "item" = some v) (span : Span) :
    Job.Pushes config ⟨.call (.native .push) (.record r) span, s⟩ l v := by
  have happly := Native.push_apply (s := s.calling ⟨Native.push.name, some span⟩) hlist hitem (some span)
  refine ⟨⟨r, span, rfl, hlist, hitem⟩, ?_⟩
  rw [Job.outcome_native hroom, happly]
  exact ⟨_, _, rfl⟩

/-- A call that finds no place. -/
lemma Job.outcome_native_full (hroom : ¬ s.calls.length < config.maxCallDepth) (f : Native)
    (argument : Value) (span : Span) :
    Job.outcome config ⟨.call (.native f) argument span, s⟩ =
      .error (.failed (.fault (.recursionLimit config.maxCallDepth) (some span))) s := by
  show (liftM (callWithin config (s.room config) _ argument span) : Eval Value) s = _
  rw [State.room_eq_zero hroom]
  rfl

/-- **A call of `push`** finds a list and an item and adds the one to the other, or it fails and leaves
the store as it was. -/
theorem Job.push_cases (config : Config) (argument : Value) (span : Span) (s : State) :
    (∃ l v, Job.Pushes config ⟨.call (.native .push) argument span, s⟩ l v ∧
      Job.outcome config ⟨.call (.native .push) argument span, s⟩ =
        .ok (.list l) { s with store := s.store.append l v }) ∨
    ∃ e t, Job.outcome config ⟨.call (.native .push) argument span, s⟩ = .error (.failed e) t ∧
      t.store = s.store := by
  by_cases hroom : s.calls.length < config.maxCallDepth
  · have houtcome := Job.outcome_native hroom .push argument span
    obtain ⟨r, l, v, rfl, hlist, hitem⟩ | ⟨e, he⟩ :=
      Native.push_cases argument (some span) (s.calling ⟨Native.push.name, some span⟩)
    · rw [Native.push_apply hlist hitem] at houtcome
      exact Or.inl ⟨l, v, Job.pushes_of_room hroom hlist hitem span, houtcome⟩
    · rw [he] at houtcome
      exact Or.inr ⟨e, _, houtcome, rfl⟩
  · exact Or.inr ⟨_, s, Job.outcome_native_full hroom .push argument span, rfl⟩

end

/-! ### One use of the rules -/

namespace Likeness

/-- The answers to all allowed tasks agree in states that are alike. -/
def AnswersAgree (L : Likeness) (answer : Task → Eval Value) : Prop :=
  ∀ task s s', L.like s s' → L.Allows s.store task →
    L.Agree s L.value (answer task s) (answer task s')

namespace Lawful

section

variable {L : Likeness} {answer : Task → Eval Value} {s s' : State}

/-- What an expression does with allowed values of its operands. -/
lemma agree_finish (hL : L.Lawful) (hanswer : L.AnswersAgree answer) (hst : L.like s s') {e : Expr}
    (he : L.text (.expr e)) {vs : List Value} (hvs : ∀ v ∈ vs, L.value s.store v) :
    L.Agree s L.value
      (e.finish (fun f v span => answer (.call f v span)) (fun body => answer (.block body)) vs s)
      (e.finish (fun f v span => answer (.call f v span)) (fun body => answer (.block body)) vs s') := by
  have hcontainers := (hL.twin hst).containers
  have hzip : ∀ names : List String, ∀ vs' ⊆ vs, ∀ field ∈ names.zip vs', L.value s.store field.2 :=
    fun names vs' hsub field hfield => hvs _ (hsub (List.of_mem_zip hfield).2)
  unfold Expr.finish
  -- one case for each equation of the definition, in its order
  split
  · exact (hL.agree_getName hst he (List.mem_singleton_self _) _).lift
  · refine (hL.agree_resolve hst _).lift.bind fun entry t t' ht _ => ?_
    exact agree_pure ht.like (hL.type _ entry)
  · next l _ => cases l <;> exact agree_pure hst (hL.atom rfl)
  · exact (hL.agree_newRecord hst (hzip _ _ (List.Subset.refl _))).lift
  · exact (hL.agree_newList hst hvs).lift
  · next op _ _ span l r =>
      refine (agree_read (f := fun s => Operator.binary s.store op l r span) hst ?_ fun w hw => ?_).lift
      · exact hcontainers.binary_eq op l r span
      · exact hL.atom (isAtom_of_binary hw)
  · exact (agree_except hst fun w hw => hL.atom (isAtom_of_unary hw)).lift
  · exact hanswer _ s s' hst ⟨hvs _ (by simp), hvs _ (by simp)⟩
  · refine (hL.agree_newRecord hst (hzip _ _ (List.subset_cons_self _ _))).lift.bind
      fun v t t' ht hv => ?_
    exact hanswer _ t t' ht.like ⟨ht.value _ (hvs _ List.mem_cons_self), hv⟩
  · next name span v =>
      refine (agree_read (f := fun s => readField s.store v name span) hst ?_ fun w hw => ?_).lift
      · exact hcontainers.readField_eq v name span
      · exact hL.value_of_readField hst (hvs v List.mem_cons_self) hw
  · next span target v =>
      refine (agree_read (f := fun s => readIndex s.store target v span) hst ?_ fun w hw => ?_).lift
      · exact hcontainers.readIndex_eq target v span
      · exact hL.value_of_readIndex hst (hvs target List.mem_cons_self) hw
  · refine hL.agree_choose hst (hvs _ List.mem_cons_self) (fun arm hmem t t' ht => ?_) _
    exact hanswer _ t t' ht (hL.inner he (.arm hmem))
  · next params body span =>
      refine (hL.agree_newClosure hst he
        (f := fun id scope => .lambda ⟨id, .ofParams params, body, scope⟩)
        (fun _ _ => rfl) fun _ _ body' hbody' => ?_).lift
      obtain rfl := List.mem_singleton.mp hbody'
      exact .lambda
  · exact agree_pure hst (hL.atom rfl)

/-- What a statement does with an allowed value of its operand. -/
lemma agree_statementFinish (hL : L.Lawful) (hanswer : L.AnswersAgree answer) (hst : L.like s s')
    {st : Statement} (htext : L.text (.statement st)) {v : Value} (hv : L.value s.store v)
    (policy : Redefinition) :
    L.Agree s Any (st.finish policy (fun body => answer (.block body)) v s)
      (st.finish policy (fun body => answer (.block body)) v s') := by
  cases st with
  | const name value span =>
      exact (hL.agree_define hst htext (List.mem_singleton_self _) hv policy span).lift
  | assign name value span =>
      exact (hL.agree_assign hst htext (List.mem_singleton_self _) hv _).lift
  | classDef decl =>
      refine hL.agree_defineType hst htext rfl TypeEntry.ofClass (fun st => ⟨st.nextId + 1, rfl⟩)
        (fun st st' h => ?_) policy decl.span
      simp only [Store.newClass, Store.newId, h, and_self]
  | groupDef decl =>
      refine hL.agree_defineType hst htext rfl TypeEntry.ofGroup (fun st => ⟨_, newGroup_snd decl st⟩)
        (fun st st' h => ?_) policy decl.span
      refine ⟨?_, ?_⟩
      · simp only [Store.newGroup, Store.newId, newVariants_fst h, newVariants_snd, h]
      · rw [newGroup_snd, newGroup_snd, h]
  | function name arms span =>
      refine (hL.agree_newClosure hst htext
        (f := fun id scope => .function ⟨id, name, arms, scope⟩)
        (fun _ _ => rfl) fun _ _ body hbody => ?_).lift.bind fun f t t' ht hf => ?_
      · obtain ⟨arm, hmem, rfl⟩ := List.mem_map.mp hbody
        exact .function hmem
      · exact (hL.agree_define ht.like htext (List.mem_singleton_self _) hf policy span).lift
  | leave value span =>
      refine .error (.refl hst) ?_
      rintro w ⟨⟩
      exact hv
  | branch condition yes no span =>
      refine (agree_except (P := Any) hst fun _ _ => trivial).lift.bind fun b t t' ht _ => ?_
      cases hbody : (if b then some yes else no) with
      | none => exact agree_pure ht.like trivial
      | some body =>
          have hinner : Task.Inner (.statement (.branch condition yes no span)) body :=
            .branch (Block.eq_of_branch hbody)
          refine (hL.agree_withFrame (P := L.value) ht.like (fun x w hw => absurd hw (by simp))
            fun hlike => ?_).discard
          exact hanswer _ _ _ hlike (hL.inner htext hinner)
  | log value span =>
      have hafter : L.After s (s.log [v.text s.store]) (s'.log [v.text s'.store]) := by
        rw [(hL.twin hst).containers.text_eq]
        exact hL.after_log hst _
      exact .ok hafter trivial
  | logType path span =>
      refine (hL.agree_resolve hst path).lift.bind fun entry t t' ht _ => ?_
      exact .ok (hL.after_log ht.like _) trivial
  | expression value span => exact agree_pure hst trivial

/-- A call runs the body of what is called, in the scope that this has captured. -/
lemma agree_call (hL : L.Lawful) (hanswer : L.AnswersAgree answer) (hst : L.like s s')
    {target argument : Value} (htarget : L.value s.store target) (hargument : L.value s.store argument)
    (config : Config) (span : Span)
    (hpush : ∀ l v, Job.Pushes config ⟨.call target argument span, s⟩ l v → L.push s.store l v) :
    L.Agree s L.value (Task.step config answer (.call target argument span) s)
      (Task.step config answer (.call target argument span) s') := by
  cases target with
  | function f =>
      refine hL.agree_invoke hst fun _ hcalling => ?_
      refine hL.agree_withScope hcalling htarget rfl fun hscope => ?_
      refine hL.agree_choose hscope hargument (fun arm hmem t t' ht => ?_) span
      exact hanswer _ t t' ht (hL.body htarget (List.mem_map_of_mem hmem))
  | lambda f =>
      refine hL.agree_invoke hst fun _ hcalling => ?_
      refine (hL.agree_bindParams hcalling f hargument span).lift.bind fun params t t' ht hparams => ?_
      have htarget' : L.value t.store (.lambda f) := ht.value _ htarget
      refine hL.agree_withScope ht.like htarget' rfl fun hscope => ?_
      refine hL.agree_withFrame hscope hparams fun hframe => ?_
      exact hanswer _ _ _ hframe (hL.body htarget' (List.mem_singleton_self _))
  | native f =>
      refine hL.agree_invoke hst fun hroom hcalling => ?_
      refine (hL.agree_native hcalling f hargument span ?_).lift
      rintro rfl r l v rfl hlist hitem
      exact hpush l v (Job.pushes_of_room hroom hlist hitem span)
  | ofClass c => exact (hL.agree_construct hst c hargument span).lift
  | _ =>
      refine .error (.refl hst) ?_
      rintro w ⟨⟩

/-- One use of the rules. -/
theorem agree_step (hL : L.Lawful) (hanswer : L.AnswersAgree answer) (config : Config) {task : Task}
    (hst : L.like s s') (htask : L.Allows s.store task)
    (hpush : ∀ l v, Job.Pushes config ⟨task, s⟩ l v → L.push s.store l v) :
    L.Agree s L.value (task.step config answer s) (task.step config answer s') := by
  have hnil : ∀ {st : Store}, L.value st .nil := hL.atom rfl
  cases task with
  | expr e =>
      refine (agree_mapM hst fun operand hmem t t' ht => ?_).bind fun vs t t' ht hvs => ?_
      · exact hanswer (.expr operand) t t' ht (hL.part htask (.operand hmem))
      · exact hL.agree_finish hanswer ht.like htask hvs
  | statement st =>
      have hoperand : L.Agree s L.value
          (st.operand?.elim (pure Value.nil) (fun e => answer (.expr e)) s)
          (st.operand?.elim (pure Value.nil) (fun e => answer (.expr e)) s') := by
        cases h : st.operand? with
        | some e => exact hanswer (.expr e) s s' hst (hL.part htask (.statementOperand h))
        | none => exact agree_pure hst hnil
      rw [Task.step_statement]
      refine hoperand.bind fun v t t' ht hv => ?_
      exact (hL.agree_statementFinish hanswer ht.like htask hv _).bind fun _ u u' hu _ =>
        agree_pure hu.like hnil
  | statements sts =>
      refine (agree_forM hst fun st hmem t t' ht => ?_).bind fun _ t t' ht _ => agree_pure ht.like hnil
      exact (hanswer (.statement st) t t' ht (hL.part htask (.statement hmem))).discard
  | block b =>
      obtain ⟨sts, tail⟩ := b
      refine (hanswer (.statements sts) s s' hst (hL.part htask .body)).discard.bind
        fun _ t t' ht _ => ?_
      cases tail with
      | some e => exact hanswer (.expr e) t t' ht.like (hL.part htask .tail)
      | none => exact agree_pure ht.like hnil
  | call target argument span =>
      exact hL.agree_call hanswer hst htask.1 htask.2 config span hpush

/-! ### Evaluation -/

/-- **The same text in states that are alike.** If everything may be pushed, outcomes agree. -/
theorem agree (hL : L.Lawful) (hpush : ∀ st l v, L.push st l v) (config : Config) {task : Task}
    (hst : L.like s s') (htask : L.Allows s.store task) :
    L.Agree s L.value (Job.outcome config ⟨task, s⟩) (Job.outcome config ⟨task, s'⟩) := by
  let bottom : Task → Eval Value := fun _ => throw (.failed (.defect .emptyScope))
  have hunfolded : ∀ n, L.AnswersAgree (unfolded config bottom n) := by
    intro n
    induction n with
    | zero =>
        intro task s s' hst _
        refine .error (.refl hst) ?_
        rintro v ⟨⟩
    | succ n ih => exact fun task s s' hst htask => hL.agree_step ih config hst htask fun _ _ _ => hpush ..
  have hsettled : ∀ p : Job, ∃ depth, p.IsSettledBy config depth := fun p => p.exists_isSettledBy
  obtain ⟨depth, hdepth⟩ := hsettled ⟨task, s⟩
  obtain ⟨depth', hdepth'⟩ := hsettled ⟨task, s'⟩
  rw [← hdepth (max depth depth') (le_max_left _ _) bottom,
    ← hdepth' (max depth depth') (le_max_right _ _) bottom]
  exact hunfolded _ task s s' hst htask

/-- **What one state keeps.** If a likeness relates each state to itself alone, and every push that
succeeds on the way is allowed, evaluation leads to a state that it relates to itself. -/
theorem agree_self (hL : L.Lawful) (hself : ∀ s s', L.like s s' → s' = s) (config : Config) (p : Job)
    (hst : L.like p.state p.state) (htask : L.Allows p.state.store p.task)
    (hpush : ∀ q l v, p.LeadsTo config q → q.Pushes config l v → L.push q.state.store l v) :
    L.Agree p.state L.value (p.outcome config) (p.outcome config) := by
  classical
  induction p using (Job.wellFounded_invokes config).induction with
  | _ p ih =>
      -- Only what the job invokes is answered: for these jobs the induction hypothesis holds.
      let answer : Task → Eval Value := fun task s =>
        if p.Invokes config ⟨task, s⟩ then Job.outcome config ⟨task, s⟩
        else .error (.failed (.defect .emptyScope)) s
      have hanswer : L.AnswersAgree answer := by
        intro task s s' hst' htask'
        obtain rfl := hself s s' hst'
        by_cases hinvokes : p.Invokes config ⟨task, s'⟩
        · simp only [answer, if_pos hinvokes]
          exact ih ⟨task, s'⟩ hinvokes hst' htask' fun q l v hleads =>
            hpush q l v (.head hinvokes hleads)
        · simp only [answer, if_neg hinvokes]
          refine .error (.refl hst') ?_
          rintro v ⟨⟩
      have hstep := hL.agree_step hanswer config hst htask fun l v => hpush p l v .refl
      obtain ⟨asked, hinvoked, hsettled, -⟩ := p.isCovered config
      have houtcome : p.task.step config answer p.state = p.outcome config := by
        refine hsettled answer fun q hq => ?_
        simp only [answer, if_pos (hinvoked q hq)]
      rwa [houtcome] at hstep

end

end Lawful

end Likeness

end RecordLang
