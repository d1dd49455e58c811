import RecordLang.Call
import RecordLang.Proofs.Sites

/-!
What the pure parts of evaluation can fail with.

Operators, access to fields and items, type paths, conformance and patterns change nothing, and when
they fail the error points to a site that they were given: a fault at a place, or the defect of a type
path that is neither a name nor a variant of a group. Their faults are about the values, types and
patterns at hand, never about names, definitions or the depth of calls.

* `Error.PointsInto`: an error points to one of the given sites.
* `Blames`: a computation that fails only in this way, and `Blames.bind` for two in a row.
* `blames_binary`, `blames_check`, `blames_first?` and others: the pure parts of evaluation.
-/

namespace RecordLang

/-! ### Errors that point to sites -/

/-- The causes that lie in values, types and patterns. The others lie in names, definitions and calls. -/
def Cause.IsData : Cause → Prop
  | .unresolvedIdentifier _ => False
  | .unresolved _ => False
  | .nonExhaustiveMatch _ => False
  | .redefinition _ => False
  | .notCallable _ => False
  | .recursionLimit _ => False
  | _ => True

/-- A path that can stand for something: a name, or a variant of a group. -/
def TypePath.WellFormed (path : TypePath) : Prop :=
  path.segments.length = 1 ∨ path.segments.length = 2

/-- The error points to one of the sites: a fault with an admitted cause stands at a place among them,
and a defect is that of a path among them which is not well formed. -/
def Error.PointsInto (sites : List Site) (admitted : Cause → Prop) : Error → Prop
  | .fault cause (some span) => admitted cause ∧ .place span ∈ sites
  | .fault _ none => False
  | .defect d => ∃ path : TypePath, .type path ∈ sites ∧ ¬ path.WellFormed ∧ d = .nestedTypePath path.text

/-- More causes may be admitted. -/
lemma Error.PointsInto.mono {sites : List Site} {admitted admitted' : Cause → Prop} {e : Error}
    (h : e.PointsInto sites admitted) (hsub : ∀ cause, admitted cause → admitted' cause) :
    e.PointsInto sites admitted' := by
  cases e with
  | fault cause span =>
      cases span with
      | none => exact h
      | some span => exact ⟨hsub cause h.1, h.2⟩
  | defect d => exact h

/-- A computation that fails, if it does, with an error about data that points to one of the sites. -/
def Blames {α : Type} (sites : List Site) (x : Except Error α) : Prop :=
  ∀ e, x = .error e → e.PointsInto sites Cause.IsData

section

variable {α β : Type} {sites : List Site}

lemma blames_ok (a : α) : Blames sites (.ok a) := by
  intro e he
  exact absurd he (by simp)

lemma blames_error {e : Error} (h : e.PointsInto sites Cause.IsData) :
    Blames sites (.error e : Except Error α) := by
  intro e' he
  cases he
  exact h

lemma Blames.bind {x : Except Error α} {f : α → Except Error β} (hx : Blames sites x)
    (hf : ∀ a, Blames sites (f a)) : Blames sites (x >>= f) := by
  cases x with
  | ok a => exact hf a
  | error e => exact blames_error (hx e rfl)

lemma Blames.map {x : Except Error α} (hx : Blames sites x) (f : α → β) : Blames sites (x.map f) := by
  cases x with
  | ok a => exact blames_ok _
  | error e => exact blames_error (hx e rfl)

lemma blames_allM {p : α → Except Error Bool} (h : ∀ a, Blames sites (p a)) (as : List α) :
    Blames sites (as.allM p) := by
  induction as with
  | nil => exact blames_ok true
  | cons a rest ih =>
      refine (h a).bind fun b => ?_
      cases b with
      | true => exact ih
      | false => exact blames_ok false

end

/-! ### Values and operators -/

section

variable {sites : List Site} {span : Span} (hspan : .place span ∈ sites)

include hspan

/-- A fault about data at a place among the sites. -/
lemma blames_fault {α : Type} {cause : Cause} (h : cause.IsData) :
    Blames sites (.error (.fault cause (some span)) : Except Error α) :=
  blames_error ⟨h, hspan⟩

lemma blames_expectNumber (v : Value) : Blames sites (v.expectNumber (some span)) := by
  cases v with
  | number x => exact blames_ok x
  | _ => exact blames_fault hspan trivial

lemma blames_expectString (v : Value) : Blames sites (v.expectString (some span)) := by
  cases v with
  | string s => exact blames_ok s
  | _ => exact blames_fault hspan trivial

lemma blames_expectBoolean (v : Value) : Blames sites (v.expectBoolean (some span)) := by
  cases v with
  | boolean b => exact blames_ok b
  | _ => exact blames_fault hspan trivial

lemma blames_expectRecord (v : Value) : Blames sites (v.expectRecord (some span)) := by
  cases v with
  | record r => exact blames_ok r
  | _ => exact blames_fault hspan trivial

lemma blames_expectList (v : Value) : Blames sites (v.expectList (some span)) := by
  cases v with
  | list r => exact blames_ok r
  | _ => exact blames_fault hspan trivial

lemma blames_numeric (l r : Value) (f : Float → Float → Float) :
    Blames sites (Operator.numeric l r (some span) f) :=
  (blames_expectNumber hspan l).bind fun _ =>
    (blames_expectNumber hspan r).bind fun _ => blames_ok _

lemma blames_ordered (l r : Value) (wanted : Ordering → Bool) :
    Blames sites (Operator.ordered l r (some span) wanted) := by
  unfold Operator.ordered
  split
  · exact blames_ok _
  · exact (blames_expectNumber hspan l).bind fun _ =>
      (blames_expectNumber hspan r).bind fun _ => blames_ok _

lemma blames_add (l r : Value) : Blames sites (Operator.add l r (some span)) := by
  unfold Operator.add
  split
  · exact (blames_expectString hspan r).bind fun _ => blames_ok _
  · exact blames_numeric hspan l r _

lemma blames_binary (st : Store) (op : BinaryOp) (l r : Value) :
    Blames sites (Operator.binary st op l r span) := by
  cases op with
  | add => exact blames_add hspan l r
  | sub | mul | div | pow => exact blames_numeric hspan l r _
  | eq | ne => exact blames_ok _
  | lt | le | gt | ge => exact blames_ordered hspan l r _

lemma blames_factorial (x : Float) : Blames sites (Operator.factorial x (some span)) := by
  rw [Operator.factorial]
  split
  · exact blames_fault hspan trivial
  · exact blames_ok _

lemma blames_unary (op : UnaryOp) (v : Value) : Blames sites (Operator.unary op v span) := by
  cases op with
  | neg => exact (blames_expectNumber hspan v).map _
  | not => exact (blames_expectBoolean hspan v).map _
  | factorial =>
      refine (blames_expectNumber hspan v).bind fun x => ?_
      exact (blames_factorial hspan x).bind fun _ => blames_ok _

lemma blames_readField (st : Store) (v : Value) (name : String) :
    Blames sites (readField st v name span) := by
  unfold readField
  dsimp only
  split
  · split
    · exact blames_ok _
    · exact blames_fault hspan trivial
  · split
    · exact blames_ok _
    · exact blames_fault hspan trivial
  · split
    · exact blames_ok _
    · exact blames_fault hspan trivial
  · exact blames_fault hspan trivial

lemma blames_readIndex (st : Store) (target position : Value) :
    Blames sites (readIndex st target position span) := by
  refine (blames_expectList hspan target).bind fun r => ?_
  refine (blames_expectNumber hspan position).bind fun x => ?_
  dsimp only
  split
  · exact blames_ok _
  · exact blames_fault hspan trivial

lemma blames_pushField (fields : Table Value) (name : String) :
    Blames sites (Native.pushField fields name (some span)) := by
  rw [Native.pushField]
  split
  · exact blames_ok _
  · exact blames_fault hspan trivial

lemma blames_resolveVariant (types : Registry) (group variant : String) :
    Blames sites (types.resolveVariant group variant (some span)) := by
  rw [Registry.resolveVariant]
  split
  · split
    · exact blames_ok _
    · exact blames_fault hspan trivial
  · exact blames_fault hspan trivial
  · exact blames_fault hspan trivial

end

/-! ### Types -/

section

variable {sites : List Site}

/-- A path of any other length is a defect. -/
lemma TypePath.not_wellFormed {path : TypePath} (hname : ∀ name, path.segments ≠ [name])
    (hvariant : ∀ group variant, path.segments ≠ [group, variant]) : ¬ path.WellFormed := by
  rintro (hone | htwo)
  · obtain ⟨name, h⟩ := List.length_eq_one_iff.mp hone
    exact hname name h
  · obtain ⟨group, variant, h⟩ := List.length_eq_two.mp htwo
    exact hvariant group variant h

lemma blames_resolve (types : Registry) {path : TypePath} (h : path.sites ⊆ sites) :
    Blames sites (types.resolve path) := by
  have hspan : Site.place path.span ∈ sites := h (by simp [TypePath.sites])
  have hpath : Site.type path ∈ sites := h (by simp [TypePath.sites])
  rw [Registry.resolve]
  split
  · split
    · exact blames_ok _
    · exact blames_fault hspan trivial
  · next group variant _ =>
      have hblames := blames_resolveVariant hspan types group variant
      split
      · exact blames_ok _
      · next e he => exact blames_error (hblames e he)
  · next hname hvariant =>
      exact blames_error ⟨path, hpath, TypePath.not_wellFormed hname hvariant, rfl⟩

lemma blames_resolveClass (types : Registry) {path : TypePath} (h : path.sites ⊆ sites) :
    Blames sites (types.resolveClass path) := by
  have hspan : Site.place path.span ∈ sites := h (by simp [TypePath.sites])
  rw [Registry.resolveClass]
  split
  · next e he => exact blames_error (blames_resolve types h e he)
  · exact blames_ok _
  · exact blames_fault hspan trivial

mutual

/-- Conformance fails only where a path of the type does. -/
theorem blames_accepts (types : Registry) (st : Store) (type : Ty) (h : type.sites ⊆ sites)
    (v : Value) : Blames sites (type.accepts types st v) := by
  cases type with
  | primitive p => exact blames_ok _
  | reference path =>
      cases v with
      | object c r => exact (blames_resolve types h).map _
      | _ => exact blames_ok false
  | record fields =>
      cases v with
      | record r =>
          simp only [Ty.accepts]
          split
          · exact blames_acceptsFields types st fields h _
          · exact blames_ok false
      | _ => exact blames_ok false
  | list item =>
      cases v with
      | list r =>
          simp only [Ty.accepts]
          exact blames_allM (fun w => blames_accepts types st item h w) _
      | _ => exact blames_ok false
  | union alternatives => exact blames_acceptsAny types st alternatives h v

theorem blames_acceptsFields (types : Registry) (st : Store) (fields : List (String × Ty))
    (h : Ty.fieldSites fields ⊆ sites) (found : Table Value) :
    Blames sites (Ty.acceptsFields types st fields found) := by
  cases fields with
  | nil => exact blames_ok true
  | cons field rest =>
      obtain ⟨name, type⟩ := field
      obtain ⟨htype, hrest⟩ := List.append_subset.mp h
      simp only [Ty.acceptsFields]
      split
      · exact blames_ok false
      · refine (blames_accepts types st type htype _).bind fun b => ?_
        cases b with
        | true => exact blames_acceptsFields types st rest hrest found
        | false => exact blames_ok false

theorem blames_acceptsAny (types : Registry) (st : Store) (alternatives : List Ty)
    (h : Ty.sitesAll alternatives ⊆ sites) (v : Value) :
    Blames sites (Ty.acceptsAny types st alternatives v) := by
  cases alternatives with
  | nil => exact blames_ok false
  | cons type rest =>
      obtain ⟨htype, hrest⟩ := List.append_subset.mp h
      refine (blames_accepts types st type htype v).bind fun b => ?_
      cases b with
      | true => exact blames_ok true
      | false => exact blames_acceptsAny types st rest hrest v

end

lemma blames_checkTypes (types : Registry) (st : Store) (found : Table Value) (owner : String)
    {span : Span} (hspan : .place span ∈ sites) {fields : List (String × Ty)}
    (h : Ty.fieldSites fields ⊆ sites) :
    Blames sites (Shape.checkTypes types st found owner (some span) fields) := by
  induction fields with
  | nil => exact blames_ok ()
  | cons field rest ih =>
      obtain ⟨name, type⟩ := field
      obtain ⟨htype, hrest⟩ := List.append_subset.mp h
      simp only [Shape.checkTypes]
      split
      · exact ih hrest
      · refine (blames_accepts types st type htype _).bind fun b => ?_
        cases b with
        | true => exact ih hrest
        | false => exact blames_fault hspan trivial

lemma blames_check (types : Registry) (st : Store) {shape : Shape} (h : shape.sites ⊆ sites)
    (found : Table Value) (owner : String) {span : Span} (hspan : .place span ∈ sites) :
    Blames sites (shape.check types st found owner (some span)) := by
  rw [Shape.check]
  split
  · exact blames_fault hspan trivial
  · split
    · exact blames_fault hspan trivial
    · exact blames_checkTypes types st found owner hspan h

lemma blames_instantiate (types : Registry) (st : Store) {c : Class} (h : c.shape.sites ⊆ sites)
    (r : RecordRef) {span : Span} (hspan : .place span ∈ sites) :
    Blames sites (c.instantiate types st r (some span)) :=
  (blames_check types st h _ _ hspan).bind fun _ => blames_ok _

/-! ### Patterns -/

lemma blames_malformed {α : Type} {e : Expr} (h : e.sites ⊆ sites) :
    Blames sites (.error (Pattern.malformed e) : Except Error α) :=
  blames_fault (h e.place_mem_sites) trivial

mutual

theorem blames_validateAfter (p : Expr) (h : p.sites ⊆ sites) (seen : List String) :
    Blames sites (Pattern.validateAfter seen p) := by
  cases p with
  | identifier name span =>
      have hspan : Site.place span ∈ sites := h (by simp [Expr.sites])
      simp only [Pattern.validateAfter]
      split_ifs
      · exact blames_ok _
      · exact blames_fault hspan trivial
      · exact blames_ok _
  | literal l span => exact blames_ok _
  | record fields span => exact blames_validateFields fields (List.cons_subset.mp h).2 seen
  | callNamed callee fields span =>
      cases callee with
      | typeRef path =>
          have hfields : Expr.fieldSites fields ⊆ sites :=
            (List.append_subset.mp (List.cons_subset.mp h).2).2
          exact blames_validateFields fields hfields seen
      | _ => exact blames_malformed h
  | _ => exact blames_malformed h

theorem blames_validateFields (fields : List (String × Expr)) (h : Expr.fieldSites fields ⊆ sites)
    (seen : List String) : Blames sites (Pattern.validateFields seen fields) := by
  cases fields with
  | nil => exact blames_ok _
  | cons field rest =>
      obtain ⟨name, p⟩ := field
      obtain ⟨hp, hrest⟩ := List.append_subset.mp h
      simp only [Pattern.validateFields]
      split
      · next e he => exact blames_error (blames_validateAfter p hp seen e he)
      · exact blames_validateFields rest hrest _

end

mutual

theorem blames_bindings? (types : Registry) (st : Store) (p : Expr) (h : p.sites ⊆ sites)
    (v : Value) : Blames sites (Pattern.bindings? types st p v) := by
  cases p with
  | identifier name span => exact blames_ok _
  | literal l span => exact blames_ok _
  | record fields span =>
      cases v with
      | record r => exact blames_fieldBindings? types st fields (List.cons_subset.mp h).2 _
      | _ => exact blames_ok none
  | callNamed callee fields span =>
      cases callee with
      | typeRef path =>
          obtain ⟨hpath, hfields⟩ := List.append_subset.mp (List.cons_subset.mp h).2
          simp only [Pattern.bindings?]
          split
          · next e he => exact blames_error (blames_resolveClass types hpath e he)
          · split
            · split
              · exact blames_fieldBindings? types st fields hfields _
              · exact blames_ok none
            · exact blames_ok none
      | _ => exact blames_malformed h
  | _ => exact blames_malformed h

theorem blames_fieldBindings? (types : Registry) (st : Store) (fields : List (String × Expr))
    (h : Expr.fieldSites fields ⊆ sites) (found : Table Value) :
    Blames sites (Pattern.fieldBindings? types st fields found) := by
  cases fields with
  | nil => exact blames_ok _
  | cons field rest =>
      obtain ⟨name, p⟩ := field
      obtain ⟨hp, hrest⟩ := List.append_subset.mp h
      simp only [Pattern.fieldBindings?]
      split
      · exact blames_ok none
      · split
        · next e he => exact blames_error (blames_bindings? types st p hp _ e he)
        · exact blames_ok none
        · exact (blames_fieldBindings? types st rest hrest found).map _

end

lemma blames_match? (types : Registry) (st : Store) {p : Expr} (h : p.sites ⊆ sites) (v : Value) :
    Blames sites (Pattern.match? types st p v) := by
  have hvalidate : Blames sites (Pattern.validate p) := (blames_validateAfter p h []).map _
  rw [Pattern.match?]
  split
  · next e he => exact blames_error (hvalidate e he)
  · exact blames_bindings? types st p h v

/-- Choosing an alternative fails only where a pattern does. -/
lemma blames_first? {α : Type} (types : Registry) (st : Store) (v : Value)
    {alternatives : List (Expr × α)} (h : ∀ alternative ∈ alternatives, alternative.1.sites ⊆ sites) :
    Blames sites (Pattern.first? types st v alternatives) := by
  induction alternatives with
  | nil => exact blames_ok none
  | cons alternative rest ih =>
      obtain ⟨p, a⟩ := alternative
      obtain ⟨hp, hrest⟩ := List.forall_mem_cons.mp h
      simp only [Pattern.first?]
      split
      · next e he => exact blames_error (blames_match? types st hp v e he)
      · exact blames_ok _
      · exact ih hrest

end

end RecordLang
