import RecordLang.Proofs.Operands
import RecordLang.Proofs.Validity.Invariant

/-!
Patterns read as expressions.

Identifiers, literals, records and classes with named arguments are expressions and patterns at once.
Evaluated, such a text builds a value out of what its identifiers stand for; matched, it takes a value
apart. Both directions go through one relation, `Builds`, which says what a text builds without saying
how.

* `Table.find?_ofList_cons`: of pairs with one key the last counts.
* `Builds`: a value is what a text builds in a store, and `Builds.mono` for stores that keep records.
* `State.AddsRecords`: nothing has happened but that records were added.
* `eval_builds`: evaluation builds, and does nothing but add records.
-/

namespace RecordLang

/-! ### Tables made of pairs -/

namespace Table

variable {α : Type}

/-- Pairs written into a table hide what stood there. -/
lemma find?_foldl_insert_eq (pairs : List (String × α)) (t : Table α) (x : String) :
    (pairs.foldl (fun t p => t.insert p.1 p.2) t).find? x
      = ((ofList pairs).find? x).or (t.find? x) := by
  induction pairs generalizing t with
  | nil => simp [ofList]
  | cons p rest ih =>
      rw [ofList, List.foldl_cons, List.foldl_cons, ih, ih (empty.insert p.1 p.2), find?_insert,
        find?_insert, find?_empty, Option.or_assoc]
      split <;> simp

/-- A table made of pairs has the first of them only where no later one has its key. -/
lemma find?_ofList_cons (p : String × α) (pairs : List (String × α)) (x : String) :
    (ofList (p :: pairs)).find? x
      = ((ofList pairs).find? x).or (if x = p.1 then some p.2 else none) := by
  rw [ofList, List.foldl_cons, find?_foldl_insert_eq, find?_insert, find?_empty]

lemma find?_ofList_eq_none {pairs : List (String × α)} {x : String} (h : x ∉ pairs.map Prod.fst) :
    (ofList pairs).find? x = none := by
  rw [← contains_ofList, contains, Bool.not_eq_true, Option.isSome_eq_false_iff] at h
  exact Option.isNone_iff_eq_none.mp h

end Table

/-! ### What a text builds -/

section

variable (types : Registry) (look : String → Option Value) (st : Store)

mutual

/-- The value is what the text builds: each identifier gives what `look` finds for it, each literal its
value, each record and each class a record of its own with the values of the fields, of a repeated
field the last. -/
inductive Builds : Expr → Value → Prop where
  | identifier {name : String} {span : Span} {v : Value} :
      look name = some v → Builds (.identifier name span) v
  | literal {l : Literal} {span : Span} : Builds (.literal l span) (.ofLiteral l)
  | record {fields : List (String × Expr)} {span : Span} {pairs : List (String × Value)}
      {r : RecordRef} :
      BuildsFields fields pairs → st.HasRecord r → st.record r = .ofList pairs →
      Builds (.record fields span) (.record r)
  | object {path : TypePath} {fields : List (String × Expr)} {span : Span} {c : Class}
      {pairs : List (String × Value)} {r : RecordRef} :
      types.resolve path = .ok (.ofClass c) →
      BuildsFields fields pairs → st.HasRecord r → st.record r = .ofList pairs →
      Builds (.callNamed (.typeRef path) fields span) (.object c r)

/-- The values are what the texts of the fields build, each under its name. -/
inductive BuildsFields : List (String × Expr) → List (String × Value) → Prop where
  | nil : BuildsFields [] []
  | cons {name : String} {e : Expr} {v : Value} {rest : List (String × Expr)}
      {pairs : List (String × Value)} :
      Builds e v → BuildsFields rest pairs → BuildsFields ((name, e) :: rest) ((name, v) :: pairs)

end

end

section

variable {types : Registry} {look : String → Option Value} {st st' : Store}

mutual

/-- What was built stays when records do. -/
theorem Builds.mono (hkeep : st.KeepsRecords st') (e : Expr) {v : Value}
    (h : Builds types look st e v) : Builds types look st' e v := by
  cases e with
  | identifier name span =>
      cases h with
      | identifier hname => exact .identifier hname
  | literal l span =>
      cases h
      exact .literal
  | record fields span =>
      cases h with
      | @record _ _ _ r hfields hr hrecord =>
          obtain ⟨hr', heq⟩ := hkeep r hr
          exact .record (BuildsFields.mono hkeep fields hfields) hr' (heq.trans hrecord)
  | callNamed callee fields span =>
      cases h with
      | @object _ _ _ _ _ r hclass hfields hr hrecord =>
          obtain ⟨hr', heq⟩ := hkeep r hr
          exact .object hclass (BuildsFields.mono hkeep fields hfields) hr' (heq.trans hrecord)
  | _ => cases h

theorem BuildsFields.mono (hkeep : st.KeepsRecords st') (fields : List (String × Expr))
    {pairs : List (String × Value)} (h : BuildsFields types look st fields pairs) :
    BuildsFields types look st' fields pairs := by
  cases fields with
  | nil =>
      cases h
      exact .nil
  | cons field rest =>
      cases h with
      | cons hfield hrest =>
          exact .cons (Builds.mono hkeep _ hfield) (BuildsFields.mono hkeep rest hrest)

end

/-- The names of what was built are those of the text. -/
lemma BuildsFields.keys_eq {fields : List (String × Expr)} {pairs : List (String × Value)}
    (h : BuildsFields types look st fields pairs) : pairs.map Prod.fst = fields.map Prod.fst := by
  induction fields generalizing pairs with
  | nil =>
      cases h
      rfl
  | cons field rest ih =>
      cases h with
      | cons _ hrest => rw [List.map_cons, List.map_cons, ih hrest]

/-- A record that was built has just the fields of the text. -/
lemma BuildsFields.contains_iff {fields : List (String × Expr)} {pairs : List (String × Value)}
    (h : BuildsFields types look st fields pairs) (x : String) :
    (Table.ofList pairs).contains x = true ↔ x ∈ fields.map Prod.fst := by
  rw [Table.contains_ofList, h.keys_eq]

end

/-! ### Evaluation builds -/

/-- Nothing has happened but that records were added. -/
structure State.AddsRecords (s t : State) : Prop where
  eq_records : t = { s with store := { s.store with records := t.store.records } }
  keeps : s.store.KeepsRecords t.store

namespace State.AddsRecords

variable {s t u : State}

lemma refl (s : State) : s.AddsRecords s :=
  ⟨rfl, .refl _⟩

lemma trans (h : s.AddsRecords t) (h' : t.AddsRecords u) : s.AddsRecords u :=
  ⟨h'.eq_records.trans (by rw [h.eq_records]), h.keeps.trans h'.keeps⟩

lemma newRecord (s : State) (fields : Table Value) :
    s.AddsRecords { s with store := (s.store.newRecord fields).2 } :=
  ⟨rfl, .newRecord _ fields⟩

lemma types_eq (h : s.AddsRecords t) : t.types = s.types := by
  rw [h.eq_records]

/-- Names keep what they stand for. -/
lemma lookup_eq (h : s.AddsRecords t) : t.lookup = s.lookup := by
  rw [h.eq_records]
  rfl

end State.AddsRecords

section

variable {ε α β : Type}

/-- Where two actions in a row end well, both do. -/
lemma exists_ok_of_bind {x : EStateM ε State α} {f : α → EStateM ε State β} {s u : State} {b : β}
    (h : (x >>= f) s = .ok b u) : ∃ a t, x s = .ok a t ∧ f a t = .ok b u := by
  rw [bind_apply] at h
  cases hx : x s with
  | ok a t =>
      rw [hx] at h
      exact ⟨a, t, rfl, h⟩
  | error e t =>
      rw [hx] at h
      cases h

lemma eq_ok_of_lift {x : Run α} {s t : State} {a : α} (h : (liftM x : Eval α) s = .ok a t) :
    x s = .ok a t := by
  rw [lift_apply] at h
  cases hx : x s with
  | ok b u =>
      rw [hx] at h
      cases h
      rfl
  | error e u =>
      rw [hx] at h
      cases h

/-- A pure computation that ends well leaves the state. -/
lemma eq_ok_of_except {x : Except Error α} {s t : State} {a : α} (h : (liftM x : Run α) s = .ok a t) :
    x = .ok a ∧ t = s := by
  cases x with
  | ok b =>
      cases h
      exact ⟨rfl, rfl⟩
  | error e => cases h

end

section

variable {s t : State} {v : Value}

lemma lookup_eq_of_getName {name : String} {span : Option Span} (h : getName name span s = .ok v t) :
    s.lookup name = some v ∧ t = s := by
  rw [getName, get_bind_apply] at h
  cases hname : s.lookup name with
  | none =>
      rw [hname] at h
      cases h
  | some w =>
      rw [hname] at h
      cases h
      exact ⟨rfl, rfl⟩

lemma exists_record_of_newRecord {pairs : List (String × Value)} (h : newRecord pairs s = .ok v t) :
    ∃ r, v = .record r ∧ t.store.HasRecord r ∧ t.store.record r = .ofList pairs ∧ s.AddsRecords t := by
  cases h
  refine ⟨⟨s.store.records.size⟩, rfl, ?_, ?_, .newRecord s _⟩
  · show s.store.records.size < (s.store.records.push _).size
    rw [Array.size_push]
    exact Nat.lt_succ_self _
  · exact Store.record_newRecord s.store _

/-- An object is made of the record that it is given, which stays. -/
lemma eq_object_of_construct {c : Class} {r : RecordRef} {span : Span}
    (h : construct c (.record r) span s = .ok v t) : v = .object c r ∧ t = s := by
  obtain ⟨r', u, hrecord, h⟩ := exists_ok_of_bind h
  obtain ⟨hrecord, rfl⟩ := eq_ok_of_except hrecord
  cases hrecord
  rw [get_bind_apply] at h
  obtain ⟨hmade, rfl⟩ := eq_ok_of_except h
  obtain ⟨_, -, hobject⟩ := exists_eq_ok_of_bind hmade
  cases hobject
  exact ⟨rfl, rfl⟩

lemma exists_entry_of_typeRef {env : Env} {path : TypePath}
    (h : (Expr.typeRef path).eval env s = .ok v t) :
    ∃ entry, s.types.resolve path = .ok entry ∧ v = entry.toValue ∧ t = s := by
  rw [Expr.eval] at h
  obtain ⟨entry, u, hresolve, hvalue⟩ := exists_ok_of_bind h
  obtain ⟨hentry, rfl⟩ := eq_ok_of_except (eq_ok_of_lift hresolve)
  cases hvalue
  exact ⟨entry, hentry, rfl, rfl⟩

/-- What a type name stands for can be called only if it is a class. -/
lemma exists_class_of_callWithin {config : Config} {room : Nat} {entry : TypeEntry} {r : RecordRef}
    {span : Span} (h : callWithin config room entry.toValue (.record r) span s = .ok v t) :
    ∃ c, entry = .ofClass c ∧ v = .object c r ∧ t = s := by
  cases entry with
  | ofGroup g => cases room <;> cases h
  | ofClass c =>
      have hconstruct : construct c (.record r) span s = .ok v t := by
        cases room <;> exact h
      exact ⟨c, rfl, eq_object_of_construct hconstruct⟩

end

section

variable {config : Config} {room : Nat}

mutual

/-- **Evaluation builds.** A text that is a pattern, evaluated to a value, has built that value out of
what names stand for, and has done nothing but add records. -/
theorem eval_builds (e : Expr) {seen seen' : List String}
    (hvalid : Pattern.validateAfter seen e = .ok seen') {s t : State} {v : Value}
    (h : e.eval (config.env room) s = .ok v t) :
    s.AddsRecords t ∧ Builds s.types s.lookup t.store e v := by
  cases e with
  | identifier name span =>
      rw [Expr.eval] at h
      obtain ⟨hname, rfl⟩ := lookup_eq_of_getName (eq_ok_of_lift h)
      exact ⟨.refl _, .identifier hname⟩
  | literal l span =>
      rw [Expr.eval] at h
      cases h
      exact ⟨.refl _, .literal⟩
  | record fields span =>
      rw [Pattern.validateAfter] at hvalid
      rw [Expr.eval] at h
      obtain ⟨pairs, u, hfields, h⟩ := exists_ok_of_bind h
      obtain ⟨r, rfl, hr, hrecord, hadds⟩ := exists_record_of_newRecord (eq_ok_of_lift h)
      obtain ⟨hadds', hbuilds⟩ := evalFields_builds fields hvalid hfields
      exact ⟨hadds'.trans hadds, .record (hbuilds.mono hadds.keeps) hr hrecord⟩
  | callNamed callee fields span =>
      cases callee with
      | typeRef path =>
          rw [Pattern.validateAfter] at hvalid
          rw [Expr.eval] at h
          obtain ⟨f, s₁, hcallee, hrest⟩ := exists_ok_of_bind h
          obtain ⟨entry, hentry, rfl, rfl⟩ := exists_entry_of_typeRef hcallee
          obtain ⟨pairs, u, hfields, hrest⟩ := exists_ok_of_bind hrest
          obtain ⟨w, u', hw, hcall⟩ := exists_ok_of_bind hrest
          obtain ⟨r, rfl, hr, hrecord, hadds⟩ := exists_record_of_newRecord (eq_ok_of_lift hw)
          obtain ⟨c, rfl, rfl, rfl⟩ := exists_class_of_callWithin (eq_ok_of_lift hcall)
          obtain ⟨hadds', hbuilds⟩ := evalFields_builds fields hvalid hfields
          exact ⟨hadds'.trans hadds, .object hentry (hbuilds.mono hadds.keeps) hr hrecord⟩
      | _ => cases hvalid
  | _ => cases hvalid

theorem evalFields_builds (fields : List (String × Expr)) {seen seen' : List String}
    (hvalid : Pattern.validateFields seen fields = .ok seen') {s t : State}
    {pairs : List (String × Value)} (h : Expr.evalFields (config.env room) fields s = .ok pairs t) :
    s.AddsRecords t ∧ BuildsFields s.types s.lookup t.store fields pairs := by
  cases fields with
  | nil =>
      rw [Expr.evalFields] at h
      cases h
      exact ⟨.refl _, .nil⟩
  | cons field rest =>
      obtain ⟨name, e⟩ := field
      obtain ⟨mid, hfirst, hlater⟩ := Pattern.exists_of_validateFields_cons hvalid
      rw [Expr.evalFields] at h
      obtain ⟨v, u, hv, h⟩ := exists_ok_of_bind h
      obtain ⟨vs, u', hvs, h⟩ := exists_ok_of_bind h
      cases h
      obtain ⟨hadds, hbuilds⟩ := eval_builds e hfirst hv
      obtain ⟨hadds', hrest⟩ := evalFields_builds rest hlater hvs
      -- the rest is built under the names of the state in between, which are those of the first
      rw [hadds.types_eq, hadds.lookup_eq] at hrest
      exact ⟨hadds.trans hadds', .cons (hbuilds.mono hadds'.keeps) hrest⟩

end

end

end RecordLang
