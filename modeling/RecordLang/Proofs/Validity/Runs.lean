import RecordLang.Interpreter
import RecordLang.Proofs.Validity.Evaluation

/-!
Programs that run one after the other.

An interpreter runs many programs, and each starts in the state that the one before it left, also when
that one failed. So the state stays valid for the sites of all programs run so far, and every report is
about these sites.

* `runAll`: runs programs one after the other.
* `valid_runAll`: states and reports of runs from a valid state.
* `defect_of_runs_is_nestedTypePath`: a program brings the evaluator to a defect only by a type path
  that is not well formed.
* `reported_errors_are_located`: every other error stands at a place of the programs.
* `objects_stay_conforming`: objects stay what their classes ask for.
-/

namespace RecordLang

/-- Runs programs one after the other, each from the state that the one before it left. -/
def runAll (config : Config) : List Program → State → List Report × State
  | [], s => ([], s)
  | program :: rest, s =>
      let first := run config program s
      let others := runAll config rest first.2
      (first.1 :: others.1, others.2)

/-- A report hands over a valid value, or an error that points to a site. -/
def Report.Allowed (sites : List Site) (t : State) : Report → Prop
  | .finished => True
  | .returned v => v.Valid sites t.store
  | .failed e => e.PointsInto sites Cause.IsProgram

section

variable {sites : List Site} {s t : State}

/-- A value that was handed over stays valid. -/
lemma Report.Allowed.mono {report : Report} (h : report.Allowed sites s) (hs : s.Valid sites)
    (hkeep : s.store.KeepsRecords t.store) : report.Allowed sites t := by
  cases report with
  | finished => trivial
  | returned v => exact Value.Valid.mono h hs.held hkeep
  | failed e => exact h

/-- A run keeps all records as they are. -/
lemma keepsRecords_run (config : Config) (program : Program) (s : State) :
    s.store.KeepsRecords (run config program s).2.store := by
  have heffect := Statement.execAll_effect (s.env_effect config) program s
  rw [run]
  rcases hs : execute config program s with ⟨⟨⟩, t⟩ | ⟨v | e, t⟩ <;>
    · rw [show Statement.execAll (s.env config) program s = _ from hs] at heffect
      exact heffect.keepsRecords

lemma keepsRecords_runAll (config : Config) (programs : List Program) (s : State) :
    s.store.KeepsRecords (runAll config programs s).2.store := by
  induction programs generalizing s with
  | nil => exact .refl _
  | cons program rest ih => exact (keepsRecords_run config program s).trans (ih _)

/-- A run leaves a valid state, and reports nothing but the sites of the programs. -/
lemma valid_run (config : Config) {program : Program} (hs : s.Valid sites)
    (hp : Statement.sitesAll program ⊆ sites) :
    (run config program s).2.Valid sites ∧
      (run config program s).1.Allowed sites (run config program s).2 := by
  have hsafe := Job.safe config ⟨.statements program, s⟩ ⟨hs, hp⟩
  rw [run_eq_ofOutcome]
  rcases hrun : Job.outcome config ⟨.statements program, s⟩ with ⟨v, t⟩ | ⟨v | e, t⟩
  · rw [hrun] at hsafe
    exact ⟨hsafe.1, trivial⟩
  · rw [hrun] at hsafe
    exact hsafe
  · rw [hrun] at hsafe
    exact ⟨hsafe.1.of_eq rfl rfl, hsafe.2⟩

/-- Runs leave a valid state, and what any of them reported is still true in it. -/
lemma valid_runAll (config : Config) {programs : List Program} (hs : s.Valid sites)
    (hp : ∀ program ∈ programs, Statement.sitesAll program ⊆ sites) :
    (runAll config programs s).2.Valid sites ∧
      ∀ report ∈ (runAll config programs s).1, report.Allowed sites (runAll config programs s).2 := by
  induction programs generalizing s with
  | nil => exact ⟨hs, by simp [runAll]⟩
  | cons program rest ih =>
      obtain ⟨hprogram, hrest⟩ := List.forall_mem_cons.mp hp
      obtain ⟨ht, hfirst⟩ := valid_run config hs hprogram
      obtain ⟨hu, hothers⟩ := ih ht hrest
      refine ⟨hu, List.forall_mem_cons.mpr ⟨?_, hothers⟩⟩
      exact hfirst.mono ht (keepsRecords_runAll config rest _)

/-- At the start only native functions are stored, and no types are registered. -/
lemma valid_initial (sites : List Site) : State.initial.Valid sites := by
  refine ⟨fun v hv => ?_, fun x entry hx => absurd hx (by simp [State.initial, State.ofGlobals])⟩
  obtain hheld | ⟨x, hx⟩ := Store.holds_newFrame hv
  · exact absurd hheld Store.not_holds_empty
  · obtain ⟨f, -, hf⟩ := List.mem_map.mp (Table.mem_of_find?_ofList hx)
    cases hf
    trivial

end

/-! ### Defects -/

/-- **Programs bring about no defects of the evaluator,** except by their type paths. If a program,
run on a fresh interpreter after any others, reports a defect, then the defect is a nested type path,
and the path is written in one of the programs run so far and has neither one nor two segments. -/
theorem defect_of_runs_is_nestedTypePath (config : Config) (before : List Program) (program : Program)
    (d : Defect)
    (h : (run config program (runAll config before .initial).2).1 = .failed (.defect d)) :
    ∃ path : TypePath, d = .nestedTypePath path.text ∧
      path.segments.length ≠ 1 ∧ path.segments.length ≠ 2 ∧
      ∃ p ∈ before ++ [program], .type path ∈ Statement.sitesAll p := by
  have hsites : ∀ p ∈ before ++ [program],
      Statement.sitesAll p ⊆ (before ++ [program]).flatMap Statement.sitesAll :=
    fun p hp site hsite => List.mem_flatMap.mpr ⟨p, hp, hsite⟩
  obtain ⟨hvalid, -⟩ := valid_runAll config (valid_initial _) fun p hp =>
    hsites p (List.mem_append_left _ hp)
  obtain ⟨-, hreport⟩ := valid_run config hvalid (hsites program (by simp))
  rw [h] at hreport
  obtain ⟨path, hpath, hlength, rfl⟩ := hreport
  obtain ⟨hone, htwo⟩ := not_or.mp hlength
  exact ⟨path, rfl, hone, htwo, List.mem_flatMap.mp hpath⟩

/-- A class keeps a path of three segments as the type of a field. Nothing is wrong until a later
program makes an object of it with another object in that field. -/
theorem defect_of_nested_field_type :
    let path : TypePath := ⟨["A", "B", "C"], default⟩
    let declarations : Program :=
      [.classDef ⟨"Leaf", [], default⟩, .classDef ⟨"Node", [("leaf", .named path)], default⟩]
    let leaf : Expr := .callNamed (.identifier "Leaf" default) [] default
    let program : Program :=
      [.expression (.callNamed (.identifier "Node" default) [("leaf", leaf)] default) default]
    (run default program (runAll default [declarations] .initial).2).1
        = .failed (.defect (.nestedTypePath "A.B.C")) ∧
      ∃ path' : TypePath, "A.B.C" = path'.text ∧ path'.segments.length ≠ 1 ∧
        ∃ p ∈ [declarations, program], .type path' ∈ Statement.sitesAll p := by
  intro path declarations leaf program
  have h : (run default program (runAll default [declarations] .initial).2).1
      = .failed (.defect (.nestedTypePath "A.B.C")) := rfl
  obtain ⟨path', hd, hone, -, hp⟩ :=
    defect_of_runs_is_nestedTypePath default [declarations] program _ h
  exact ⟨h, path', by simpa using hd, hone, hp⟩

/-! ### Places of errors -/

/-- An error that a program reports, run after any others on a fresh interpreter, points to a site of the
programs run so far. -/
lemma pointsInto_of_run_after {config : Config} {before : List Program} {program : Program} {e : Error}
    (h : (run config program (runAll config before .initial).2).1 = .failed e) :
    e.PointsInto ((before ++ [program]).flatMap Statement.sitesAll) Cause.IsProgram := by
  have hsites : ∀ p ∈ before ++ [program],
      Statement.sitesAll p ⊆ (before ++ [program]).flatMap Statement.sitesAll :=
    fun p hp site hsite => List.mem_flatMap.mpr ⟨p, hp, hsite⟩
  obtain ⟨hvalid, -⟩ := valid_runAll config (valid_initial _) fun p hp =>
    hsites p (List.mem_append_left _ hp)
  obtain ⟨-, hreport⟩ := valid_run config hvalid (hsites program (by simp))
  rw [h] at hreport
  exact hreport

/-- An error that points to one of the sites and is no defect stands at a place among them. -/
lemma Error.PointsInto.located {sites : List Site} {e : Error}
    (h : e.PointsInto sites Cause.IsProgram) :
    (∃ path : TypePath, e = .defect (.nestedTypePath path.text) ∧ .type path ∈ sites) ∨
      ∃ cause span, e = .fault cause (some span) ∧ .place span ∈ sites ∧
        ∀ message, cause ≠ .unresolved message := by
  cases e with
  | defect d =>
      obtain ⟨path, hpath, -, rfl⟩ := h
      exact Or.inl ⟨path, rfl, hpath⟩
  | fault cause span =>
      cases span with
      | none => exact h.elim
      | some span =>
          refine Or.inr ⟨cause, span, rfl, h.2, ?_⟩
          rintro message rfl
          exact h.1

/-- **Every reported error is located.** If a program, run on a fresh interpreter after any others,
reports an error, then this is the defect of a type path, or a fault with a place. The path or the place
is that of a node of one of the programs run so far, be it an expression, a statement, a definition or a
type path, and the fault is never one that only a host can ask for. -/
theorem reported_errors_are_located (config : Config) (before : List Program) (program : Program)
    (e : Error) (h : (run config program (runAll config before .initial).2).1 = .failed e) :
    (∃ path : TypePath, e = .defect (.nestedTypePath path.text) ∧
      ∃ p ∈ before ++ [program], .type path ∈ Statement.sitesAll p) ∨
    ∃ cause span, e = .fault cause (some span) ∧ (∀ message, cause ≠ .unresolved message) ∧
      ∃ p ∈ before ++ [program], .place span ∈ Statement.sitesAll p := by
  obtain ⟨path, he, hpath⟩ | ⟨cause, span, he, hspan, hcause⟩ := (pointsInto_of_run_after h).located
  · exact Or.inl ⟨path, he, List.mem_flatMap.mp hpath⟩
  · exact Or.inr ⟨cause, span, he, hcause, List.mem_flatMap.mp hspan⟩

/-- A field type of the first program names a class that is never defined. The second program makes an
object with that field, and the error points into the text of the first. -/
theorem error_located_in_earlier_program :
    let path : TypePath := ⟨["Missing"], ⟨17, 24⟩⟩
    let declarations : Program :=
      [.classDef ⟨"Leaf", [], ⟨0, 7⟩⟩, .classDef ⟨"Node", [("leaf", .named path)], ⟨8, 25⟩⟩]
    let leaf : Expr := .callNamed (.identifier "Leaf" ⟨11, 15⟩) [] ⟨11, 17⟩
    let program : Program :=
      [.expression (.callNamed (.identifier "Node" ⟨0, 4⟩) [("leaf", leaf)] ⟨0, 18⟩) ⟨0, 18⟩]
    (run default program (runAll default [declarations] .initial).2).1
        = .failed (.fault (.unknownType "Missing") (some ⟨17, 24⟩)) ∧
      .place ⟨17, 24⟩ ∉ Statement.sitesAll program ∧
      ∃ p ∈ [declarations, program], .place ⟨17, 24⟩ ∈ Statement.sitesAll p := by
  intro path declarations leaf program
  have h : (run default program (runAll default [declarations] .initial).2).1
      = .failed (.fault (.unknownType "Missing") (some ⟨17, 24⟩)) := rfl
  refine ⟨h, by simp [program, leaf, Statement.sitesAll, Statement.sites, Expr.sites,
    Expr.fieldSites], ?_⟩
  obtain ⟨path', hdefect, -⟩ | ⟨cause, span, he, -, hp⟩ :=
    reported_errors_are_located default [declarations] program _ h
  · cases hdefect
  · cases he
    exact hp

/-! ### Objects -/

/-- The object that a program returned. -/
def Report.object? : Report → Option (Class × RecordRef)
  | .returned (.object c r) => some (c, r)
  | _ => none

lemma Report.eq_of_object? {report : Report} {c : Class} {r : RecordRef}
    (h : report.object? = some (c, r)) : report = .returned (.object c r) := by
  unfold Report.object? at h
  split at h
  · cases h
    rfl
  · cases h

/-- **Objects stay what their classes ask for.** After any programs on a fresh interpreter, failed ones
included, take an object that stands anywhere in the store or that one of them returned. Its fields are
those that its class declares, and each field with a plain type has a value that conforms to it,
whatever the type names stand for by then. -/
theorem objects_stay_conforming (config : Config) (programs : List Program) (c : Class) (r : RecordRef)
    (h : (runAll config programs .initial).2.store.Holds (.object c r) ∨
      .returned (.object c r) ∈ (runAll config programs .initial).1) :
    let st := (runAll config programs .initial).2.store
    (∀ x, (st.record r).contains x = c.shape.contains x) ∧
      ∀ x type, c.shape.find? x = some type → type.isPlain = true →
        ∃ v, (st.record r).find? x = some v ∧ ∀ types, type.accepts types st v = .ok true := by
  intro st
  obtain ⟨hvalid, hreports⟩ := valid_runAll config (valid_initial (programs.flatMap Statement.sitesAll))
    fun program hp site hsite => List.mem_flatMap.mpr ⟨program, hp, hsite⟩
  have hobject : (Value.object c r).Valid (programs.flatMap Statement.sitesAll) st :=
    h.elim (hvalid.held _) (hreports _)
  obtain ⟨-, hfits⟩ := hobject
  refine ⟨hfits.contains_eq, fun x type htype hplain => ?_⟩
  have hpresent : (st.record r).contains x = true := by
    rw [hfits.contains_eq, Table.contains, htype]
    rfl
  obtain ⟨v, hv⟩ := Option.isSome_iff_exists.mp hpresent
  exact ⟨v, hv, hfits.accepts x type v htype hplain hv⟩

/-- A box is made; then its list grows by the box itself, its class is defined anew with other fields,
and a last program fails. The box still has a label of the type that it was made with. -/
theorem box_stays_conforming :
    let box : Expr := .identifier "box" default
    let label : TypeExpr := .union [.primitive .string, .primitive .nil]
    let first : Program :=
      [.classDef ⟨"Box", [("items", .list (.primitive .any)), ("label", label)], default⟩,
        .const "box" (.callNamed (.identifier "Box" default)
          [("items", .list [] default), ("label", .literal (.string "tools") default)] default)
          default]
    let second : Program :=
      [.expression (.callNamed (.identifier "push" default)
          [("list", .field box "items" default), ("item", box)] default) default,
        .classDef ⟨"Box", [("size", .primitive .number)], default⟩,
        .leave (some box) default]
    let third : Program := [.expression (.identifier "missing" default) default]
    let runs := runAll default [first, second, third] .initial
    ∃ c r type v, .returned (.object c r) ∈ runs.1 ∧ c.shape.find? "label" = some type ∧
      (runs.2.store.record r).find? "label" = some v ∧
      ∀ types, type.accepts types runs.2.store v = .ok true := by
  intro box label first second third runs
  have hreports : (runs.1.findSome? Report.object?).any
      (fun object => (object.1.shape.find? "label").any Ty.isPlain) = true := by decide +kernel
  obtain ⟨⟨c, r⟩, hobject, hlabel⟩ := (Option.any_eq_true ..).mp hreports
  obtain ⟨report, hmem, hreport⟩ := List.exists_of_findSome?_eq_some hobject
  obtain rfl := Report.eq_of_object? hreport
  obtain ⟨type, htype, hplain⟩ := (Option.any_eq_true ..).mp hlabel
  obtain ⟨-, hfields⟩ := objects_stay_conforming default _ c r (Or.inr hmem)
  obtain ⟨v, hv, haccepts⟩ := hfields "label" type htype hplain
  exact ⟨c, r, type, v, hmem, htype, hv, haccepts⟩

end RecordLang
