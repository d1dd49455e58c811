import RecordLang.Proofs.Matching
import RecordLang.Proofs.Membership

/-!
Validation decides before matching begins.

A pattern is faulty if one of its nodes cannot stand in a pattern, or binds a name that a node before it
has bound. Validation walks through the pattern and stops at the first such node, whatever the value and
the registry are; matching then meets none, and can fail only at a class.

* `Pattern.offence?`: what is wrong with a node behind the names bound before it.
* `Pattern.IsFirstOffence`: a node is the first with something wrong, in the order of writing.
* `Pattern.validate_eq_error_iff`: validation reports just that.
* `Pattern.refusesNode_of_bindings?`: a validated pattern fails only at a class that a path does not
  stand for.
* `validation_agrees_with_matching`: the main statement.
-/

namespace RecordLang

/-! ### Paths that stand for no class -/

/-- What is wrong with a path that stands for no class: it stands for nothing, or for a group. -/
inductive Registry.RefusesClass (types : Registry) (path : TypePath) : Error → Prop where
  | nothing {e : Error} : types.Refuses path e → RefusesClass types path e
  | group {g : Group} : types.resolve path = .ok (.ofGroup g) →
      RefusesClass types path (.fault
        (.typeMismatch ("type `" ++ path.text ++ "`") "a class" ("group `" ++ g.name ++ "`"))
        (some path.span))

lemma Registry.refusesClass_of_resolveClass {types : Registry} {path : TypePath} {e : Error}
    (h : types.resolveClass path = .error e) : types.RefusesClass path e := by
  rw [resolveClass] at h
  split at h
  · next hpath =>
      cases h
      exact .nothing (refuses_of_resolve hpath)
  · cases h
  · next hpath =>
      cases h
      exact .group hpath

/-- Whether the error says that a pattern is faulty. -/
def Error.isPatternFault : Error → Bool
  | .fault (.malformedPattern _) _ => true
  | .fault (.duplicateBinding _) _ => true
  | _ => false

lemma Registry.RefusesClass.isPatternFault_eq_false {types : Registry} {path : TypePath} {e : Error}
    (h : types.RefusesClass path e) : e.isPatternFault = false := by
  cases h with
  | nothing h => cases h <;> rfl
  | group => rfl

namespace Pattern

/-! ### Offences -/

/-- What is wrong with a node behind others that have bound the names `seen`: it binds one of them again,
or it cannot stand in a pattern. What stands below the node does not count. -/
def offence? (seen : List String) : Expr → Option Error
  | .identifier name span =>
      if name ≠ wildcard ∧ name ∈ seen then some (.fault (.duplicateBinding name) (some span))
      else none
  | .literal .. => none
  | .record .. => none
  | .callNamed (.typeRef _) _ _ => none
  | e => some (malformed e)

/-- The names that nodes bind. -/
def bound (ns : List (List String × Expr)) : List String :=
  (ns.filterMap binder?).map Prod.fst

/-- Behind the names `seen`, the node with the number `i` is the first with something wrong, namely
`e`. -/
structure IsFirstOffenceIn (seen : List String) (ns : List (List String × Expr)) (i : Nat)
    (e : Error) : Prop where
  offends : ∃ n, ns[i]? = some n ∧ offence? (bound (ns.take i) ++ seen) n.2 = some e
  before : ∀ j < i, ∀ n, ns[j]? = some n → offence? (bound (ns.take j) ++ seen) n.2 = none

/-- The node of the pattern with the number `i`, in the order in which they are written, is the first
with something wrong, namely `e`. -/
def IsFirstOffence (p : Expr) (i : Nat) (e : Error) : Prop :=
  IsFirstOffenceIn [] (nodes p) i e

lemma isPatternFault_of_offence? {seen : List String} {p : Expr} {e : Error}
    (h : offence? seen p = some e) : e.isPatternFault = true := by
  cases p with
  | identifier name span =>
      rw [offence?, Option.ite_none_right_eq_some] at h
      obtain ⟨-, h⟩ := h
      cases h
      rfl
  | literal l span => cases h
  | record fields span => cases h
  | callNamed callee fields span =>
      cases callee with
      | typeRef path => cases h
      | _ =>
          cases h
          rfl
  | _ =>
      cases h
      rfl

/-- It does not matter in which order names were seen. -/
lemma offence?_congr {seen seen' : List String} (h : ∀ x, x ∈ seen ↔ x ∈ seen') (p : Expr) :
    offence? seen p = offence? seen' p := by
  cases p with
  | identifier name span => simp only [offence?, h]
  | callNamed callee fields span => cases callee <;> rfl
  | _ => rfl

/-- Walks through nodes up to the first with something wrong, and collects the names bound. -/
def scan (seen : List String) : List (List String × Expr) → Except Error (List String)
  | [] => .ok seen
  | n :: rest =>
      match offence? seen n.2 with
      | some e => .error e
      | none => scan (bound [n] ++ seen) rest

lemma scan_append (seen : List String) (ns ms : List (List String × Expr)) :
    scan seen (ns ++ ms) = scan seen ns >>= fun seen => scan seen ms := by
  induction ns generalizing seen with
  | nil => rfl
  | cons n rest ih =>
      rw [List.cons_append, scan, scan]
      cases offence? seen n.2 with
      | some e => rfl
      | none => exact ih _

/-- The walk does not look at paths. -/
lemma scan_map_cons (name : String) (seen : List String) (ns : List (List String × Expr)) :
    scan seen (ns.map fun n => (name :: n.1, n.2)) = scan seen ns := by
  induction ns generalizing seen with
  | nil => rfl
  | cons n rest ih =>
      have hbound : bound [(name :: n.1, n.2)] = bound [n] := by
        have h := congrArg (List.map Prod.fst) (filterMap_binder?_map_cons [n] name)
        simpa only [bound, List.map_cons, List.map_nil, List.map_map, Function.comp_def] using h
      rw [List.map_cons, scan, scan, hbound]
      cases offence? seen n.2 with
      | some e => rfl
      | none => exact ih _

mutual

/-- Validation is a walk through the nodes. -/
theorem validateAfter_eq_scan (p : Expr) (seen : List String) :
    validateAfter seen p = scan seen (nodes p) := by
  cases p with
  | identifier name span =>
      by_cases hw : name = wildcard
      · simp [validateAfter, nodes, scan, offence?, bound, binder?, hw]
      · by_cases hmem : name ∈ seen <;>
          simp [validateAfter, nodes, scan, offence?, bound, binder?, hw, hmem]
  | literal l span => rfl
  | record fields span => exact validateFields_eq_scan fields seen
  | callNamed callee fields span =>
      cases callee with
      | typeRef path => exact validateFields_eq_scan fields seen
      | _ => rfl
  | _ => rfl

theorem validateFields_eq_scan (fields : List (String × Expr)) (seen : List String) :
    validateFields seen fields = scan seen (fieldNodes fields) := by
  cases fields with
  | nil => rfl
  | cons field rest =>
      obtain ⟨name, p⟩ := field
      rw [validateFields, fieldNodes, scan_append, scan_map_cons, ← validateAfter_eq_scan p]
      cases validateAfter seen p with
      | error e => rfl
      | ok mid => exact validateFields_eq_scan rest mid

end

/-! ### The first offence -/

section

variable {seen : List String} {n : List String × Expr} {rest : List (List String × Expr)} {e : Error}

lemma isFirstOffenceIn_zero_iff :
    IsFirstOffenceIn seen (n :: rest) 0 e ↔ offence? seen n.2 = some e := by
  constructor
  · rintro ⟨⟨m, hm, he⟩, -⟩
    cases hm
    exact he
  · exact fun h => ⟨⟨n, rfl, h⟩, fun j hj => absurd hj (Nat.not_lt_zero j)⟩

lemma offence?_bound_cons (seen : List String) (n : List String × Expr)
    (ns : List (List String × Expr)) (p : Expr) :
    offence? (bound (n :: ns) ++ seen) p = offence? (bound ns ++ (bound [n] ++ seen)) p := by
  have hbound : bound (n :: ns) = bound [n] ++ bound ns := by
    rw [bound, bound, bound, ← List.singleton_append, List.filterMap_append, List.map_append]
  refine offence?_congr (fun x => ?_) p
  simp only [hbound, List.mem_append]
  tauto

/-- A later node is the first with something wrong if the one in front has nothing wrong, and it is the
first behind that one. -/
lemma isFirstOffenceIn_succ_iff {i : Nat} :
    IsFirstOffenceIn seen (n :: rest) (i + 1) e ↔
      offence? seen n.2 = none ∧ IsFirstOffenceIn (bound [n] ++ seen) rest i e := by
  constructor
  · rintro ⟨⟨m, hm, he⟩, hbefore⟩
    refine ⟨hbefore 0 (Nat.zero_lt_succ i) n rfl, ⟨m, hm, ?_⟩, fun j hj m' hm' => ?_⟩
    · rw [← offence?_bound_cons]
      exact he
    · rw [← offence?_bound_cons]
      exact hbefore (j + 1) (Nat.succ_lt_succ hj) m' hm'
  · rintro ⟨hn, ⟨m, hm, he⟩, hbefore⟩
    refine ⟨⟨m, hm, ?_⟩, fun j hj m' hm' => ?_⟩
    · rw [List.take_succ_cons, offence?_bound_cons]
      exact he
    · cases j with
      | zero =>
          cases hm'
          exact hn
      | succ j =>
          rw [List.take_succ_cons, offence?_bound_cons]
          exact hbefore j (Nat.lt_of_succ_lt_succ hj) m' hm'

end

/-- The walk stops at the first offence. -/
lemma scan_eq_error_iff {seen : List String} {ns : List (List String × Expr)} {e : Error} :
    scan seen ns = .error e ↔ ∃ i, IsFirstOffenceIn seen ns i e := by
  induction ns generalizing seen with
  | nil =>
      constructor
      · intro h
        cases h
      · rintro ⟨i, ⟨n, hn, -⟩, -⟩
        cases hn
  | cons n rest ih =>
      have hsplit : (∃ i, IsFirstOffenceIn seen (n :: rest) i e) ↔ offence? seen n.2 = some e ∨
          offence? seen n.2 = none ∧ ∃ i, IsFirstOffenceIn (bound [n] ++ seen) rest i e := by
        rw [← Nat.or_exists_add_one, isFirstOffenceIn_zero_iff]
        simp only [isFirstOffenceIn_succ_iff, exists_and_left]
      rw [hsplit, scan, ← ih]
      cases offence? seen n.2 <;> simp

/-- **Validation reports the first offence.** -/
theorem validate_eq_error_iff {p : Expr} {e : Error} :
    validate p = .error e ↔ ∃ i, IsFirstOffence p i e := by
  have hscan : validate p = .error e ↔ scan [] (nodes p) = .error e := by
    rw [validate, validateAfter_eq_scan]
    cases scan [] (nodes p) <;> simp [Except.map]
  rw [hscan, scan_eq_error_iff]
  rfl

/-! ### Errors of matching -/

/-- The node asks for a class, and its path is refused with the error. -/
def RefusesNode (types : Registry) (e : Error) : Expr → Prop
  | .callNamed (.typeRef path) _ _ => types.resolveClass path = .error e
  | _ => False

section

variable {types : Registry} {st : Store} {e : Error}

mutual

/-- A validated pattern fails only at a class. -/
theorem refusesNode_of_bindings? (p : Expr) {seen seen' : List String}
    (hvalid : validateAfter seen p = .ok seen') {v : Value}
    (h : bindings? types st p v = .error e) : ∃ n ∈ nodes p, RefusesNode types e n.2 := by
  cases p with
  | identifier name span => cases h
  | literal l span => cases h
  | record fields span =>
      cases v with
      | record r =>
          obtain ⟨n, hn, hrefuses⟩ := refusesNode_of_fieldBindings? fields hvalid h
          exact ⟨n, List.mem_cons_of_mem _ hn, hrefuses⟩
      | _ => cases h
  | callNamed callee fields span =>
      cases callee with
      | typeRef path =>
          rw [bindings?] at h
          cases hclass : types.resolveClass path with
          | error e' =>
              rw [hclass] at h
              cases h
              exact ⟨_, List.mem_cons_self, hclass⟩
          | ok c =>
              rw [hclass] at h
              cases v with
              | object d r =>
                  dsimp only at h
                  split_ifs at h
                  obtain ⟨n, hn, hrefuses⟩ := refusesNode_of_fieldBindings? fields hvalid h
                  exact ⟨n, List.mem_cons_of_mem _ hn, hrefuses⟩
              | _ => cases h
      | _ => cases hvalid
  | _ => cases hvalid

theorem refusesNode_of_fieldBindings? (fields : List (String × Expr)) {seen seen' : List String}
    (hvalid : validateFields seen fields = .ok seen') {found : Table Value}
    (h : fieldBindings? types st fields found = .error e) :
    ∃ n ∈ fieldNodes fields, RefusesNode types e n.2 := by
  cases fields with
  | nil => cases h
  | cons field rest =>
      obtain ⟨name, p⟩ := field
      obtain ⟨mid, hfirst, hlater⟩ := exists_of_validateFields_cons hvalid
      rw [fieldBindings?] at h
      cases hw : found.find? name with
      | none =>
          rw [hw] at h
          cases h
      | some w =>
          simp only [hw] at h
          rcases hp : bindings? types st p w with e' | _ | bs
          · simp only [hp] at h
            cases h
            obtain ⟨n, hn, hrefuses⟩ := refusesNode_of_bindings? p hfirst hp
            exact ⟨(name :: n.1, n.2), List.mem_append_left _ (List.mem_map_of_mem hn), hrefuses⟩
          · simp only [hp] at h
            cases h
          · simp only [hp] at h
            cases hr : fieldBindings? types st rest found with
            | error e' =>
                rw [hr] at h
                cases h
                obtain ⟨n, hn, hrefuses⟩ := refusesNode_of_fieldBindings? rest hlater hr
                exact ⟨n, List.mem_append_right _ hn, hrefuses⟩
            | ok o =>
                rw [hr] at h
                cases h

end

/-- The error of a validated pattern is that of the path of a class in it. -/
lemma exists_refusesClass_of_bindings? {p : Expr} (hvalid : validate p = .ok ()) {v : Value}
    (h : bindings? types st p v = .error e) :
    ∃ n ∈ nodes p, ∃ path fields span, n.2 = .callNamed (.typeRef path) fields span ∧
      types.resolveClass path = .error e ∧ types.RefusesClass path e := by
  obtain ⟨seen, hseen⟩ := validate_eq_ok_iff.mp hvalid
  obtain ⟨⟨place, q⟩, hn, hrefuses⟩ := refusesNode_of_bindings? p hseen h
  refine ⟨(place, q), hn, ?_⟩
  cases q with
  | callNamed callee fields span =>
      cases callee with
      | typeRef path =>
          exact ⟨path, fields, span, rfl, hrefuses, Registry.refusesClass_of_resolveClass hrefuses⟩
      | _ => cases hrefuses
  | _ => cases hrefuses

end

end Pattern

/-! ### The main statement -/

/-- **Validation and matching agree.** For every pattern:

* Whether matching finds the pattern faulty, and with which error, is decided by the first of its nodes
  that cannot stand in a pattern or binds a name again. Neither the value nor the registry nor what is
  stored counts, so it does not matter that a part before that node would not match or names an unknown
  type.
* The pattern passes validation exactly if there is no such node. Then matching never finds it faulty:
  its only errors are those of the paths of its classes. -/
theorem validation_agrees_with_matching (p : Expr) :
    (∀ types st v e, e.isPatternFault = true →
      (Pattern.match? types st p v = .error e ↔ ∃ i, Pattern.IsFirstOffence p i e)) ∧
    (∀ i e, Pattern.IsFirstOffence p i e →
      e.isPatternFault = true ∧ ∀ types st v, Pattern.match? types st p v = .error e) ∧
    (Pattern.validate p = .ok () ↔ ∀ i e, ¬ Pattern.IsFirstOffence p i e) ∧
    (Pattern.validate p = .ok () → ∀ types st v e, Pattern.bindings? types st p v = .error e →
      e.isPatternFault = false ∧
        ∃ n ∈ Pattern.nodes p, ∃ path fields span, n.2 = .callNamed (.typeRef path) fields span ∧
          types.resolveClass path = .error e ∧ types.RefusesClass path e) := by
  have hfaulty : ∀ i e, Pattern.IsFirstOffence p i e → ∀ types st v,
      Pattern.match? types st p v = .error e := by
    intro i e hfirst types st v
    rw [Pattern.match?, Pattern.validate_eq_error_iff.mpr ⟨i, hfirst⟩]
  refine ⟨fun types st v e he => ⟨fun h => ?_, fun h => ?_⟩,
    fun i e hfirst => ⟨?_, hfaulty i e hfirst⟩, ⟨fun hvalid i e hfirst => ?_, fun hnone => ?_⟩,
    fun hvalid types st v e h => ⟨?_, Pattern.exists_refusesClass_of_bindings? hvalid h⟩⟩
  · rw [← Pattern.validate_eq_error_iff]
    cases hvalid : Pattern.validate p with
    | error e' =>
        rw [Pattern.match?, hvalid] at h
        cases h
        rfl
    | ok u =>
        -- a validated pattern fails at a class only, so this error would be no fault of the pattern
        rw [Pattern.match?, hvalid] at h
        obtain ⟨-, -, path, -, -, -, -, hrefuses⟩ := Pattern.exists_refusesClass_of_bindings? hvalid h
        rw [hrefuses.isPatternFault_eq_false] at he
        cases he
  · obtain ⟨i, hfirst⟩ := h
    exact hfaulty i e hfirst types st v
  · obtain ⟨n, -, hn⟩ := hfirst.offends
    exact Pattern.isPatternFault_of_offence? hn
  · rw [Pattern.validate_eq_error_iff.mpr ⟨i, hfirst⟩] at hvalid
    cases hvalid
  · cases hvalid : Pattern.validate p with
    | ok u => rfl
    | error e =>
        obtain ⟨i, hfirst⟩ := Pattern.validate_eq_error_iff.mp hvalid
        exact absurd hfirst (hnone i e)
  · obtain ⟨-, -, path, -, -, -, -, hrefuses⟩ := Pattern.exists_refusesClass_of_bindings? hvalid h
    exact hrefuses.isPatternFault_eq_false

/-- A pattern binds a name twice inside a class that is unknown. Matched with nil, it is found faulty at its
fourth node. With two different names it passes, and then the class is what fails. -/
theorem repeated_name_in_unknown_class :
    let path : TypePath := ⟨["Point"], default⟩
    let point (second : String) : Expr := .callNamed (.typeRef path)
      [("x", .identifier "a" default), ("y", .record [("z", .identifier second default)] default)]
      default
    Pattern.match? .empty {} (point "a") .nil
        = .error (.fault (.duplicateBinding "a") (some default)) ∧
      Pattern.match? .empty {} (point "b") .nil
        = .error (.fault (.unknownType "Point") (some default)) ∧
      ∃ n ∈ Pattern.nodes (point "b"), ∃ path fields span,
        n.2 = .callNamed (.typeRef path) fields span ∧
        Registry.RefusesClass .empty path (.fault (.unknownType "Point") (some default)) := by
  intro path point
  have hfirst : Pattern.IsFirstOffence (point "a") 3
      (.fault (.duplicateBinding "a") (some default)) := by
    refine ⟨⟨_, rfl, rfl⟩, fun j hj n hn => ?_⟩
    interval_cases j <;> cases hn <;> rfl
  obtain ⟨-, hfaulty, -⟩ := validation_agrees_with_matching (point "a")
  obtain ⟨-, -, -, hfails⟩ := validation_agrees_with_matching (point "b")
  obtain ⟨-, n, hn, path', fields, span, hnode, -, hrefuses⟩ :=
    hfails rfl .empty {} .nil (.fault (.unknownType "Point") (some default)) rfl
  exact ⟨(hfaulty 3 _ hfirst).2 .empty {} .nil, rfl, n, hn, path', fields, span, hnode, hrefuses⟩

end RecordLang
