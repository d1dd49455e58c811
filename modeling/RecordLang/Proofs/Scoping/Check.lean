import RecordLang.Proofs.Matching
import RecordLang.Native

/-!
A check that a program uses only names it can see.

The check reads the program once, with the names visible at each place. Statements are read in order; a
definition makes its name visible behind it, and a function its own name in its arms. A block sees what
is visible around it, an arm also the identifiers of its pattern, a lambda also its parameters, and what
a block defines is forgotten at its end. Patterns are not checked.

* `Expr.scopedIn`, `Block.scopedIn`, `Statement.scopedIn`: the check for each kind of syntax.
* `WellScoped`: the check of a program that starts with the native functions.
* `Pattern.mem_names_of_mem_identifiers`: what a validated pattern binds are the identifiers in it.
-/

namespace RecordLang

/-! ### Identifiers of patterns -/

mutual

/-- The identifiers written in an expression, outside of blocks. -/
def Expr.identifiers : Expr → List String
  | .identifier name _ => [name]
  | .typeRef _ => []
  | .literal _ _ => []
  | .record fields _ => Expr.fieldIdentifiers fields
  | .list items _ => Expr.itemIdentifiers items
  | .binary _ left right _ => left.identifiers ++ right.identifiers
  | .unary _ operand _ => operand.identifiers
  | .call callee argument _ => callee.identifiers ++ argument.identifiers
  | .callNamed callee arguments _ => callee.identifiers ++ Expr.fieldIdentifiers arguments
  | .field base _ _ => base.identifiers
  | .index base position _ => base.identifiers ++ position.identifiers
  | .select subject _ _ => subject.identifiers
  | .lambda _ _ _ => []

/-- The identifiers written in the expressions of a list. -/
def Expr.itemIdentifiers : List Expr → List String
  | [] => []
  | e :: rest => e.identifiers ++ Expr.itemIdentifiers rest

/-- The identifiers written in the expressions of fields. -/
def Expr.fieldIdentifiers : List (String × Expr) → List String
  | [] => []
  | (_, e) :: rest => e.identifiers ++ Expr.fieldIdentifiers rest

end

/-- The names that the identifiers of a pattern make visible. -/
def Pattern.visible (p : Expr) : List String :=
  p.identifiers.filter (· ≠ Pattern.wildcard)

/-! ### The check -/

/-- The names that a statement makes visible behind it. -/
def Statement.declared : Statement → List String
  | .const name _ _ => [name]
  | .classDef decl => [decl.name]
  | .groupDef decl => [decl.name]
  | .function name _ _ => [name]
  | _ => []

/-- The names visible behind statements. -/
def Statement.visibleAfter (visible : List String) (statements : List Statement) : List String :=
  statements.foldl (fun visible st => st.declared ++ visible) visible

mutual

/-- Whether an expression uses only visible names. -/
def Expr.scopedIn (visible : List String) : Expr → Bool
  | .identifier name _ => name ∈ visible
  | .typeRef _ => true
  | .literal _ _ => true
  | .record fields _ => Expr.scopedFields visible fields
  | .list items _ => Expr.scopedAll visible items
  | .binary _ left right _ => left.scopedIn visible && right.scopedIn visible
  | .unary _ operand _ => operand.scopedIn visible
  | .call callee argument _ => callee.scopedIn visible && argument.scopedIn visible
  | .callNamed callee arguments _ =>
      callee.scopedIn visible && Expr.scopedFields visible arguments
  | .field base _ _ => base.scopedIn visible
  | .index base position _ => base.scopedIn visible && position.scopedIn visible
  | .select subject arms _ => subject.scopedIn visible && Block.scopedArms visible arms
  | .lambda params body _ => body.scopedIn (params.map Prod.fst ++ visible)

/-- Whether the expressions of a list use only visible names. -/
def Expr.scopedAll (visible : List String) : List Expr → Bool
  | [] => true
  | e :: rest => e.scopedIn visible && Expr.scopedAll visible rest

/-- Whether the expressions of fields use only visible names. -/
def Expr.scopedFields (visible : List String) : List (String × Expr) → Bool
  | [] => true
  | (_, e) :: rest => e.scopedIn visible && Expr.scopedFields visible rest

/-- Whether an optional expression uses only visible names. -/
def Expr.scopedOption (visible : List String) : Option Expr → Bool
  | none => true
  | some e => e.scopedIn visible

/-- Whether the bodies of arms use only visible names and the identifiers of their patterns. -/
def Block.scopedArms (visible : List String) : List (Expr × Block) → Bool
  | [] => true
  | (pattern, body) :: rest =>
      body.scopedIn (Pattern.visible pattern ++ visible) && Block.scopedArms visible rest

/-- Whether a block uses only visible names, its own definitions included. -/
def Block.scopedIn (visible : List String) : Block → Bool
  | .mk statements tail =>
      Statement.scopedAll visible statements &&
        Expr.scopedOption (Statement.visibleAfter visible statements) tail

/-- Whether an optional block uses only visible names. -/
def Block.scopedOption (visible : List String) : Option Block → Bool
  | none => true
  | some block => block.scopedIn visible

/-- Whether a statement uses only visible names. -/
def Statement.scopedIn (visible : List String) : Statement → Bool
  | .const _ value _ => value.scopedIn visible
  | .assign name value _ => name ∈ visible && value.scopedIn visible
  | .classDef _ => true
  | .groupDef _ => true
  | .function name arms _ => Block.scopedArms (name :: visible) arms
  | .leave value _ => Expr.scopedOption visible value
  | .branch condition yes no _ =>
      condition.scopedIn visible && yes.scopedIn visible && Block.scopedOption visible no
  | .log value _ => value.scopedIn visible
  | .logType .. => true
  | .expression value _ => value.scopedIn visible

/-- Whether statements use only visible names, the definitions before them included. -/
def Statement.scopedAll (visible : List String) : List Statement → Bool
  | [] => true
  | st :: rest => st.scopedIn visible && Statement.scopedAll (st.declared ++ visible) rest

end

/-- A program that uses only names visible where they stand; the native functions are visible from the
start. -/
def WellScoped (program : Program) : Prop :=
  Statement.scopedAll Native.prelude.keys program = true

instance (program : Program) : Decidable (WellScoped program) :=
  inferInstanceAs (Decidable (_ = true))

/-! ### Patterns that pass -/

namespace Pattern

mutual

/-- The identifiers of a validated pattern are the names that it binds, and the wildcard. -/
theorem mem_names_of_mem_identifiers (p : Expr) {seen seen' : List String}
    (h : validateAfter seen p = .ok seen') {x : String} (hx : x ∈ p.identifiers)
    (hw : x ≠ wildcard) : x ∈ names p := by
  cases p with
  | identifier name span =>
      obtain rfl : x = name := by simpa [Expr.identifiers] using hx
      simp [names, binders, nodes, binder?, hw]
  | literal l span => simp [Expr.identifiers] at hx
  | record fields span =>
      have hmem := mem_names_of_mem_fieldIdentifiers fields h hx hw
      simpa [names, binders, nodes, binder?] using hmem
  | callNamed callee fields span =>
      cases callee with
      | typeRef path =>
          have hmem := mem_names_of_mem_fieldIdentifiers fields h
            (by simpa [Expr.identifiers] using hx) hw
          simpa [names, binders, nodes, binder?] using hmem
      | _ => simp [validateAfter] at h
  | _ => simp [validateAfter] at h

/-- The identifiers of the patterns of fields are the names that these bind, and the wildcard. -/
theorem mem_names_of_mem_fieldIdentifiers (fields : List (String × Expr)) {seen seen' : List String}
    (h : validateFields seen fields = .ok seen') {x : String}
    (hx : x ∈ Expr.fieldIdentifiers fields) (hw : x ≠ wildcard) :
    x ∈ ((fieldNodes fields).filterMap binder?).map Prod.fst := by
  cases fields with
  | nil => simp [Expr.fieldIdentifiers] at hx
  | cons field rest =>
      obtain ⟨name, p⟩ := field
      simp only [validateFields] at h
      cases hp : validateAfter seen p with
      | error e => simp [hp] at h
      | ok mid =>
          simp only [hp] at h
          rw [fieldNodes, List.filterMap_append, filterMap_binder?_map_cons, List.map_append,
            List.mem_append, List.map_map]
          rw [Expr.fieldIdentifiers, List.mem_append] at hx
          obtain hx | hx := hx
          · exact Or.inl (mem_names_of_mem_identifiers p hp hx hw)
          · exact Or.inr (mem_names_of_mem_fieldIdentifiers rest h hx hw)

end

/-- After a match every name that the pattern makes visible is bound. -/
lemma mem_of_mem_visible {types : Registry} {st : Store} {p : Expr} {v : Value} {bs : Bindings}
    (h : match? types st p v = .ok (some bs)) {x : String} (hx : x ∈ visible p) :
    x ∈ bs.map Prod.fst := by
  obtain ⟨hvalid, hbs⟩ := match?_eq_ok_iff.mp h
  obtain ⟨seen, hseen⟩ := validate_eq_ok_iff.mp hvalid
  obtain ⟨hx, hw⟩ := List.mem_filter.mp hx
  rw [BindsPaths.map_fst (match_of_bindings? p hbs).2]
  exact mem_names_of_mem_identifiers p hseen hx (by simpa using hw)

end Pattern

end RecordLang
