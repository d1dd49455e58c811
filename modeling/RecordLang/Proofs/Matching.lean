import Mathlib.Tactic
import RecordLang.Pattern

/-!
What it means for a value to match a pattern.

Every node of a pattern stands at a path of field names, and a value matches the pattern when it has at
each of these paths a subvalue that fits the node. The names that a match binds are read off the same
paths. None of this follows the matcher's order of search, so it says what the search finds.

* `Pattern.nodes`, `Value.at?`: the nodes of a pattern and the subvalues of a value, by path.
* `Pattern.Matches`, `Pattern.Binds`: the meaning of a match and of its bindings.
* `Pattern.match_of_bindings?`, `Pattern.not_matches_of_bindings?`: what the matcher answers is right.
* `Pattern.exists_bindings?`: a validated pattern whose classes are known gets an answer.
* `Pattern.first?_iff_isFirstMatch`: the first matching arm is chosen, with the bindings of its paths.
-/

namespace RecordLang

/-! ### Subvalues -/

/-- The value of a field of a record or an object. -/
def Value.field? (st : Store) : Value → String → Option Value
  | .record r, name => (st.record r).find? name
  | .object _ r, name => (st.record r).find? name
  | _, _ => none

/-- The subvalue at the end of a path of field names. -/
def Value.at? (st : Store) : Value → List String → Option Value
  | v, [] => some v
  | v, name :: path =>
      match v.field? st name with
      | some w => w.at? st path
      | none => none

/-- The first step of a path leads to a field. -/
lemma Value.at?_cons {st : Store} {v w : Value} {name : String} (h : v.field? st name = some w)
    (path : List String) : v.at? st (name :: path) = w.at? st path := by
  simp [Value.at?, h]

/-- A path whose first field is absent leads nowhere. -/
lemma Value.at?_cons_none {st : Store} {v : Value} {name : String} (h : v.field? st name = none)
    (path : List String) : v.at? st (name :: path) = none := by
  simp [Value.at?, h]

namespace Pattern

/-! ### Nodes -/

mutual

/-- The nodes of a pattern, each with its path, in the order in which they are written. -/
def nodes : Expr → List (List String × Expr)
  | .record fields span => ([], .record fields span) :: fieldNodes fields
  | .callNamed callee fields span => ([], .callNamed callee fields span) :: fieldNodes fields
  | e => [([], e)]

/-- The nodes of the patterns of fields; their paths begin with the name of the field. -/
def fieldNodes : List (String × Expr) → List (List String × Expr)
  | [] => []
  | (name, p) :: rest => (nodes p).map (fun n => (name :: n.1, n.2)) ++ fieldNodes rest

end

/-- The name that a node binds, with its path. -/
def binder? : List String × Expr → Option (String × List String)
  | (path, .identifier name _) => if name = wildcard then none else some (name, path)
  | _ => none

/-- The names that a pattern binds, with their paths, in the order in which they are written. -/
def binders (p : Expr) : List (String × List String) :=
  (nodes p).filterMap binder?

/-- The names that a pattern binds. -/
def names (p : Expr) : List String :=
  (binders p).map Prod.fst

/-! ### Matches -/

/-- The values that a literal stands for: those of its kind with an equal payload. -/
def Denotes : Literal → Value → Prop
  | .number x, v => ∃ y, v = .number y ∧ (x == y) = true
  | .string s, v => v = .string s
  | .boolean b, v => v = .boolean b
  | .null, v => v = .nil

/-- Whether a value fits a node by itself, whatever stands below the node. -/
def Fits (types : Registry) : Expr → Value → Prop
  | .identifier _ _, _ => True
  | .literal l _, v => Denotes l v
  | .record _ _, v => ∃ r, v = .record r
  | .callNamed (.typeRef path) _ _, v =>
      ∃ c d r, types.resolveClass path = .ok c ∧ v = .object d r ∧ d.id = c.id
  | _, _ => False

/-- A value matches nodes if at the path of each it has a subvalue that fits. -/
def MatchesNodes (types : Registry) (st : Store) (ns : List (List String × Expr)) (v : Value) :
    Prop :=
  ∀ n ∈ ns, ∃ w, v.at? st n.1 = some w ∧ Fits types n.2 w

/-- A value matches a pattern if it matches all nodes of it. -/
def Matches (types : Registry) (st : Store) (p : Expr) (v : Value) : Prop :=
  MatchesNodes types st (nodes p) v

/-- The bindings are the names with the subvalues at their paths, in order. -/
def BindsPaths (st : Store) (xs : List (String × List String)) (v : Value) (bs : Bindings) : Prop :=
  bs.map (fun b => (b.1, some b.2)) = xs.map (fun x => (x.1, v.at? st x.2))

/-- The bindings are those that a match of the value with the pattern gives. -/
def Binds (st : Store) (p : Expr) (v : Value) (bs : Bindings) : Prop :=
  BindsPaths st (binders p) v bs

/-- The class that a node asks for, if any, is known. -/
def ResolvesNode (types : Registry) : Expr → Prop
  | .callNamed (.typeRef path) _ _ => ∃ c, types.resolveClass path = .ok c
  | _ => True

/-- Every class that a pattern mentions is known. -/
def Resolves (types : Registry) (p : Expr) : Prop :=
  ∀ n ∈ nodes p, ResolvesNode types n.2

/-! ### Nodes below a field -/

section

variable {types : Registry} {st : Store} {v w : Value} {name : String}

/-- Below a field, the nodes of its pattern are matched by its value. -/
lemma matchesNodes_map_cons (h : v.field? st name = some w) (ns : List (List String × Expr)) :
    MatchesNodes types st (ns.map fun n => (name :: n.1, n.2)) v ↔ MatchesNodes types st ns w := by
  simp only [MatchesNodes, List.forall_mem_map, Value.at?_cons h]

lemma matchesNodes_append (ns ms : List (List String × Expr)) :
    MatchesNodes types st (ns ++ ms) v ↔
      MatchesNodes types st ns v ∧ MatchesNodes types st ms v := by
  simp only [MatchesNodes, List.forall_mem_append]

lemma matchesNodes_cons (n : List String × Expr) (ns : List (List String × Expr)) :
    MatchesNodes types st (n :: ns) v ↔
      (∃ w, v.at? st n.1 = some w ∧ Fits types n.2 w) ∧ MatchesNodes types st ns v := by
  simp only [MatchesNodes, List.forall_mem_cons]

/-- A pattern is matched at its own place: by the whole value. -/
lemma matchesNodes_root (e : Expr) (ns : List (List String × Expr)) :
    MatchesNodes types st (([], e) :: ns) v ↔ Fits types e v ∧ MatchesNodes types st ns v := by
  simp only [matchesNodes_cons, Value.at?, Option.some.injEq, exists_eq_left']

/-- Every pattern has itself as a node, so an absent field leaves its pattern unmatched. -/
lemma nodes_ne_nil (p : Expr) : nodes p ≠ [] := by
  cases p <;> simp [nodes]

lemma not_matchesNodes_map_cons (h : v.field? st name = none) (p : Expr) :
    ¬ MatchesNodes types st ((nodes p).map fun n => (name :: n.1, n.2)) v := by
  intro hm
  obtain ⟨n, ns, hn⟩ := List.exists_cons_of_ne_nil (nodes_ne_nil p)
  rw [hn, List.map_cons, matchesNodes_cons] at hm
  obtain ⟨⟨u, hu, -⟩, -⟩ := hm
  rw [Value.at?_cons_none h] at hu
  exact absurd hu (by simp)

lemma filterMap_binder?_map_cons (ns : List (List String × Expr)) (name : String) :
    (ns.map fun n => (name :: n.1, n.2)).filterMap binder? =
      (ns.filterMap binder?).map fun x => (x.1, name :: x.2) := by
  rw [List.filterMap_map, List.map_filterMap]
  refine List.filterMap_congr fun n _ => ?_
  obtain ⟨path, e⟩ := n
  cases e with
  | identifier x span => by_cases hx : x = wildcard <;> simp [binder?, hx]
  | _ => rfl

lemma BindsPaths.map_cons (h : v.field? st name = some w) {xs : List (String × List String)}
    {bs : Bindings} (hb : BindsPaths st xs w bs) :
    BindsPaths st (xs.map fun x => (x.1, name :: x.2)) v bs := by
  simpa only [BindsPaths, List.map_map, Function.comp_def, Value.at?_cons h] using hb

lemma BindsPaths.append {xs ys : List (String × List String)} {bs cs : Bindings}
    (hb : BindsPaths st xs v bs) (hc : BindsPaths st ys v cs) :
    BindsPaths st (xs ++ ys) v (bs ++ cs) := by
  simp only [BindsPaths, List.map_append] at hb hc ⊢
  rw [hb, hc]

/-- The bindings of a match are determined by their paths. -/
lemma BindsPaths.unique {xs : List (String × List String)} {bs cs : Bindings}
    (hb : BindsPaths st xs v bs) (hc : BindsPaths st xs v cs) : bs = cs := by
  have hinj : Function.Injective fun b : String × Value => (b.1, some b.2) := by
    rintro ⟨x, a⟩ ⟨y, b⟩ h
    simpa using h
  exact hinj.list_map (hb.trans hc.symm)

lemma BindsPaths.map_fst {xs : List (String × List String)} {bs : Bindings}
    (hb : BindsPaths st xs v bs) : bs.map Prod.fst = xs.map Prod.fst := by
  have h := congrArg (List.map Prod.fst) hb
  simpa only [List.map_map, Function.comp_def] using h

end

/-- The matcher compares literals as their meaning says. -/
lemma literalMatches_iff (l : Literal) (v : Value) : literalMatches l v = true ↔ Denotes l v := by
  cases l with
  | number x => cases v <;> simp [literalMatches, Denotes]
  | string s => cases v <;> simp [literalMatches, Denotes, eq_comm (a := s)]
  | boolean b => cases v <;> simp [literalMatches, Denotes, eq_comm (a := b)]
  | null => cases v <;> simp [literalMatches, Denotes]

/-! ### What the matcher answers -/

section

variable {types : Registry} {st : Store}

/-- A record pattern looks into plain records only. -/
lemma bindings?_record_eq_ok {fields : List (String × Expr)} {span : Span} {v : Value}
    {o : Option Bindings} :
    bindings? types st (.record fields span) v = .ok o ↔
      (∃ r, v = .record r ∧ fieldBindings? types st fields (st.record r) = .ok o) ∨
        (∀ r, v ≠ .record r) ∧ o = none := by
  cases v <;> simp [bindings?, eq_comm]

/-- A class pattern looks into objects of its class only. -/
lemma bindings?_class_eq_ok {path : TypePath} {fields : List (String × Expr)} {span : Span}
    {v : Value} {o : Option Bindings} :
    bindings? types st (.callNamed (.typeRef path) fields span) v = .ok o ↔
      ∃ c, types.resolveClass path = .ok c ∧
        ((∃ d r, v = .object d r ∧ d.id = c.id ∧
            fieldBindings? types st fields (st.record r) = .ok o) ∨
          (∀ d r, v = .object d r → d.id ≠ c.id) ∧ o = none) := by
  simp only [bindings?]
  cases hc : types.resolveClass path with
  | error e => simp
  | ok c =>
      cases v with
      | object d r => by_cases hd : d.id = c.id <;> simp [hd, eq_comm]
      | _ => simp [eq_comm]

/-- Fields give bindings if the first is present and gives some, and the rest do. -/
lemma fieldBindings?_cons_eq_some {name : String} {p : Expr} {rest : List (String × Expr)}
    {found : Table Value} {bs : Bindings} :
    fieldBindings? types st ((name, p) :: rest) found = .ok (some bs) ↔
      ∃ w as cs, found.find? name = some w ∧ bindings? types st p w = .ok (some as) ∧
        fieldBindings? types st rest found = .ok (some cs) ∧ bs = as ++ cs := by
  simp only [fieldBindings?]
  cases hw : found.find? name with
  | none => simp
  | some w =>
      rcases hp : bindings? types st p w with e | _ | as
      · simp [hp]
      · simp [hp]
      · rcases hr : fieldBindings? types st rest found with e | _ | cs <;>
          simp [hp, Except.map, eq_comm]

/-- Fields do not match if the first is absent or does not match, or else the rest do not. -/
lemma fieldBindings?_cons_eq_none {name : String} {p : Expr} {rest : List (String × Expr)}
    {found : Table Value} :
    fieldBindings? types st ((name, p) :: rest) found = .ok none ↔
      found.find? name = none ∨ ∃ w, found.find? name = some w ∧
        (bindings? types st p w = .ok none ∨
          (∃ as, bindings? types st p w = .ok (some as)) ∧
            fieldBindings? types st rest found = .ok none) := by
  simp only [fieldBindings?]
  cases hw : found.find? name with
  | none => simp
  | some w =>
      rcases hp : bindings? types st p w with e | _ | as
      · simp [hp]
      · simp [hp]
      · rcases hr : fieldBindings? types st rest found with e | _ | cs <;>
          simp [hp, Except.map]

mutual

/-- Bindings are given only for a match, and are those at the paths of the pattern. -/
theorem match_of_bindings? (p : Expr) {v : Value} {bs : Bindings}
    (h : bindings? types st p v = .ok (some bs)) : Matches types st p v ∧ Binds st p v bs := by
  cases p with
  | identifier name span =>
      simp only [bindings?, Except.ok.injEq, Option.some.injEq] at h
      subst h
      refine ⟨(matchesNodes_root _ _).mpr ⟨trivial, by simp [MatchesNodes]⟩, ?_⟩
      by_cases hx : name = wildcard <;>
        simp [Binds, BindsPaths, binders, nodes, binder?, hx, Value.at?]
  | literal l span =>
      simp only [bindings?, Except.ok.injEq, Option.ite_none_right_eq_some, Option.some.injEq] at h
      obtain ⟨hl, rfl⟩ := h
      exact ⟨(matchesNodes_root _ _).mpr
        ⟨(literalMatches_iff l v).mp hl, by simp [MatchesNodes]⟩, rfl⟩
  | record fields span =>
      obtain ⟨r, rfl, hr⟩ | ⟨-, hnone⟩ := bindings?_record_eq_ok.mp h
      · obtain ⟨hm, hb⟩ := match_of_fieldBindings? fields (v := .record r) (fun _ => rfl) hr
        exact ⟨(matchesNodes_root _ _).mpr ⟨⟨r, rfl⟩, hm⟩, hb⟩
      · exact absurd hnone (by simp)
  | callNamed callee fields span =>
      cases callee with
      | typeRef path =>
          obtain ⟨c, hc, ⟨d, r, rfl, hd, hr⟩ | ⟨-, hnone⟩⟩ := bindings?_class_eq_ok.mp h
          · obtain ⟨hm, hb⟩ := match_of_fieldBindings? fields (v := .object d r) (fun _ => rfl) hr
            exact ⟨(matchesNodes_root _ _).mpr ⟨⟨c, d, r, hc, rfl, hd⟩, hm⟩, hb⟩
          · exact absurd hnone (by simp)
      | _ => simp [bindings?] at h
  | _ => simp [bindings?] at h

/-- Bindings of fields are given only if all of them are present and match. -/
theorem match_of_fieldBindings? (fields : List (String × Expr)) {found : Table Value} {v : Value}
    {bs : Bindings} (hv : ∀ name, v.field? st name = found.find? name)
    (h : fieldBindings? types st fields found = .ok (some bs)) :
    MatchesNodes types st (fieldNodes fields) v ∧
      BindsPaths st ((fieldNodes fields).filterMap binder?) v bs := by
  cases fields with
  | nil =>
      simp only [fieldBindings?, Except.ok.injEq, Option.some.injEq] at h
      subst h
      exact ⟨by simp [MatchesNodes, fieldNodes], rfl⟩
  | cons field rest =>
      obtain ⟨name, p⟩ := field
      obtain ⟨w, as, cs, hw, hp, hr, rfl⟩ := fieldBindings?_cons_eq_some.mp h
      have hfield : v.field? st name = some w := (hv name).trans hw
      obtain ⟨hm, hb⟩ := match_of_bindings? p hp
      obtain ⟨hms, hbs⟩ := match_of_fieldBindings? rest hv hr
      rw [fieldNodes, matchesNodes_append, matchesNodes_map_cons hfield, List.filterMap_append,
        filterMap_binder?_map_cons]
      exact ⟨⟨hm, hms⟩, (hb.map_cons hfield).append hbs⟩

end

mutual

/-- Where the matcher finds no match there is none. -/
theorem not_matches_of_bindings? (p : Expr) {v : Value}
    (h : bindings? types st p v = .ok none) : ¬ Matches types st p v := by
  intro hm
  cases p with
  | identifier name span => simp [bindings?] at h
  | literal l span =>
      have hl := (literalMatches_iff l v).mpr ((matchesNodes_root _ _).mp hm).1
      simp [bindings?, hl] at h
  | record fields span =>
      obtain ⟨⟨r, rfl⟩, hms⟩ := (matchesNodes_root _ _).mp hm
      obtain ⟨r', hr', hr⟩ | ⟨hne, -⟩ := bindings?_record_eq_ok.mp h
      · cases hr'
        exact not_matches_of_fieldBindings? fields (fun _ => rfl) hr hms
      · exact hne r rfl
  | callNamed callee fields span =>
      cases callee with
      | typeRef path =>
          obtain ⟨⟨c, d, r, hc, rfl, hd⟩, hms⟩ := (matchesNodes_root _ _).mp hm
          obtain ⟨c', hc', hcases⟩ := bindings?_class_eq_ok.mp h
          obtain rfl : c = c' := by simpa [hc] using hc'
          obtain ⟨d', r', hv, -, hr⟩ | ⟨hne, -⟩ := hcases
          · cases hv
            exact not_matches_of_fieldBindings? fields (fun _ => rfl) hr hms
          · exact hne d r rfl hd
      | _ => simp [bindings?] at h
  | _ => simp [bindings?] at h

/-- Where the matcher finds that fields do not match, some node below them is not matched. -/
theorem not_matches_of_fieldBindings? (fields : List (String × Expr)) {found : Table Value}
    {v : Value} (hv : ∀ name, v.field? st name = found.find? name)
    (h : fieldBindings? types st fields found = .ok none) :
    ¬ MatchesNodes types st (fieldNodes fields) v := by
  cases fields with
  | nil => simp [fieldBindings?] at h
  | cons field rest =>
      obtain ⟨name, p⟩ := field
      rw [fieldNodes, matchesNodes_append]
      rintro ⟨hm, hms⟩
      obtain hw | ⟨w, hw, hp⟩ := fieldBindings?_cons_eq_none.mp h
      · exact not_matchesNodes_map_cons ((hv name).trans hw) p hm
      · rw [matchesNodes_map_cons ((hv name).trans hw)] at hm
        obtain hp | ⟨-, hr⟩ := hp
        · exact not_matches_of_bindings? p hp hm
        · exact not_matches_of_fieldBindings? rest hv hr hms

end

/-- Fields that pass validation do so one after the other. -/
lemma exists_of_validateFields_cons {seen seen' : List String} {name : String} {p : Expr}
    {rest : List (String × Expr)} (h : validateFields seen ((name, p) :: rest) = .ok seen') :
    ∃ mid, validateAfter seen p = .ok mid ∧ validateFields mid rest = .ok seen' := by
  rw [validateFields] at h
  cases hp : validateAfter seen p with
  | error e =>
      rw [hp] at h
      cases h
  | ok mid =>
      rw [hp] at h
      exact ⟨mid, rfl, h⟩

mutual

/-- The matcher does not fail on a validated pattern whose classes are known. -/
theorem exists_bindings? (p : Expr) {seen seen' : List String}
    (hvalid : validateAfter seen p = .ok seen') (hres : Resolves types p) (v : Value) :
    ∃ o, bindings? types st p v = .ok o := by
  cases p with
  | identifier name span => exact ⟨_, rfl⟩
  | literal l span => exact ⟨_, rfl⟩
  | record fields span =>
      have hfields : ∀ n ∈ fieldNodes fields, ResolvesNode types n.2 :=
        (List.forall_mem_cons.mp hres).2
      cases v with
      | record r => exact exists_fieldBindings? fields hvalid hfields (st.record r)
      | _ => exact ⟨none, rfl⟩
  | callNamed callee fields span =>
      cases callee with
      | typeRef path =>
          obtain ⟨⟨c, hc⟩, hfields⟩ := List.forall_mem_cons.mp hres
          simp only [bindings?, hc]
          cases v with
          | object d r =>
              by_cases hd : d.id = c.id
              · obtain ⟨o, ho⟩ := exists_fieldBindings? fields hvalid hfields (st.record r)
                exact ⟨o, by simp [hd, ho]⟩
              · exact ⟨none, by simp [hd]⟩
          | _ => exact ⟨none, rfl⟩
      | _ => simp [validateAfter] at hvalid
  | _ => simp [validateAfter] at hvalid

/-- The matcher does not fail on the patterns of fields either. -/
theorem exists_fieldBindings? (fields : List (String × Expr)) {seen seen' : List String}
    (hvalid : validateFields seen fields = .ok seen')
    (hres : ∀ n ∈ fieldNodes fields, ResolvesNode types n.2) (found : Table Value) :
    ∃ o, fieldBindings? types st fields found = .ok o := by
  cases fields with
  | nil => exact ⟨_, rfl⟩
  | cons field rest =>
      obtain ⟨name, p⟩ := field
      rw [fieldNodes, List.forall_mem_append, List.forall_mem_map] at hres
      simp only [validateFields] at hvalid
      cases hp : validateAfter seen p with
      | error e => simp [hp] at hvalid
      | ok mid =>
          simp only [hp] at hvalid
          simp only [fieldBindings?]
          cases found.find? name with
          | none => exact ⟨none, rfl⟩
          | some w =>
              obtain ⟨o, ho⟩ := exists_bindings? p hp hres.1 w
              obtain ⟨o', ho'⟩ := exists_fieldBindings? rest hvalid hres.2 found
              cases o with
              | none => exact ⟨none, by simp [ho]⟩
              | some as => exact ⟨_, by simp only [ho, ho']; rfl⟩

end

mutual

/-- Validation collects the names that the pattern binds, and refuses to see one twice. -/
theorem validateAfter_eq_ok (p : Expr) {seen seen' : List String}
    (h : validateAfter seen p = .ok seen') :
    seen' = (names p).reverse ++ seen ∧ (seen.Nodup → seen'.Nodup) := by
  cases p with
  | identifier name span =>
      simp only [validateAfter] at h
      split_ifs at h with hw hmem
      · cases h
        exact ⟨by simp [names, binders, nodes, binder?, hw], id⟩
      · cases h
        exact ⟨by simp [names, binders, nodes, binder?, hw], fun hs => List.nodup_cons.mpr ⟨hmem, hs⟩⟩
  | literal l span =>
      cases h
      exact ⟨rfl, id⟩
  | record fields span => exact validateFields_eq_ok fields h
  | callNamed callee fields span =>
      cases callee with
      | typeRef path => exact validateFields_eq_ok fields h
      | _ => simp [validateAfter] at h
  | _ => simp [validateAfter] at h

/-- Validation of fields collects the names that their patterns bind. -/
theorem validateFields_eq_ok (fields : List (String × Expr)) {seen seen' : List String}
    (h : validateFields seen fields = .ok seen') :
    seen' = (((fieldNodes fields).filterMap binder?).map Prod.fst).reverse ++ seen ∧
      (seen.Nodup → seen'.Nodup) := by
  cases fields with
  | nil =>
      cases h
      exact ⟨rfl, id⟩
  | cons field rest =>
      obtain ⟨name, p⟩ := field
      simp only [validateFields] at h
      cases hp : validateAfter seen p with
      | error e => simp [hp] at h
      | ok mid =>
          simp only [hp] at h
          obtain ⟨rfl, hmid⟩ := validateAfter_eq_ok p hp
          obtain ⟨rfl, hall⟩ := validateFields_eq_ok rest h
          refine ⟨?_, fun hs => hall (hmid hs)⟩
          rw [fieldNodes, List.filterMap_append, filterMap_binder?_map_cons]
          simp [names, binders, Function.comp_def]

end

/-! ### Patterns as a whole -/

lemma validate_eq_ok_iff {p : Expr} :
    validate p = .ok () ↔ ∃ seen, validateAfter [] p = .ok seen := by
  rw [validate]
  cases validateAfter [] p <;> simp [Except.map]

/-- A validated pattern binds no name twice. -/
lemma nodup_names {p : Expr} (h : validate p = .ok ()) : (names p).Nodup := by
  obtain ⟨seen, hseen⟩ := validate_eq_ok_iff.mp h
  obtain ⟨rfl, hnodup⟩ := validateAfter_eq_ok p hseen
  simpa using hnodup List.nodup_nil

/-- Matching validates the pattern first. -/
lemma match?_eq_ok_iff {p : Expr} {v : Value} {o : Option Bindings} :
    match? types st p v = .ok o ↔ validate p = .ok () ∧ bindings? types st p v = .ok o := by
  rw [match?]
  cases validate p with
  | error e => simp
  | ok u => simp

/-- For a pattern that passes, the bindings of a match are those at its paths. -/
lemma match?_eq_some_iff {p : Expr} {v : Value} {bs : Bindings} (hvalid : validate p = .ok ())
    (hres : Resolves types p) :
    match? types st p v = .ok (some bs) ↔ Matches types st p v ∧ Binds st p v bs := by
  obtain ⟨seen, hseen⟩ := validate_eq_ok_iff.mp hvalid
  obtain ⟨o, ho⟩ : ∃ o, bindings? types st p v = .ok o := exists_bindings? p hseen hres v
  rw [match?_eq_ok_iff]
  constructor
  · exact fun h => match_of_bindings? p h.2
  · rintro ⟨hm, hb⟩
    refine ⟨hvalid, ?_⟩
    cases o with
    | none => exact absurd hm (not_matches_of_bindings? p ho)
    | some cs =>
        have hcs : cs = bs := (match_of_bindings? p ho).2.unique hb
        rw [ho, hcs]

/-- For a pattern that passes, the matcher finds no match exactly when there is none. -/
lemma match?_eq_none_iff {p : Expr} {v : Value} (hvalid : validate p = .ok ())
    (hres : Resolves types p) :
    match? types st p v = .ok none ↔ ¬ Matches types st p v := by
  obtain ⟨seen, hseen⟩ := validate_eq_ok_iff.mp hvalid
  obtain ⟨o, ho⟩ : ∃ o, bindings? types st p v = .ok o := exists_bindings? p hseen hres v
  rw [match?_eq_ok_iff]
  constructor
  · exact fun h => not_matches_of_bindings? p h.2
  · intro hm
    refine ⟨hvalid, ?_⟩
    cases o with
    | none => exact ho
    | some cs => exact absurd (match_of_bindings? p ho).1 hm

end

/-! ### Arms -/

section

variable {types : Registry} {st : Store} {v : Value} {α : Type}

/-- The chosen alternative is one of those given, and its pattern gave the bindings. -/
lemma exists_of_first? {alternatives : List (Expr × α)} {a : α} {bs : Bindings}
    (h : first? types st v alternatives = .ok (some (a, bs))) :
    ∃ p, (p, a) ∈ alternatives ∧ match? types st p v = .ok (some bs) := by
  induction alternatives with
  | nil => simp [first?] at h
  | cons alternative rest ih =>
      obtain ⟨p, a'⟩ := alternative
      rcases hp : match? types st p v with e | _ | cs
      · simp [first?, hp] at h
      · obtain ⟨q, hmem, hq⟩ := ih (by simpa [first?, hp] using h)
        exact ⟨q, List.mem_cons_of_mem _ hmem, hq⟩
      · obtain ⟨rfl, rfl⟩ : a' = a ∧ cs = bs := by simpa [first?, hp] using h
        exact ⟨p, List.mem_cons_self, hp⟩

/-- Alternatives that do not match are passed over. -/
lemma first?_append_of_none {before : List (Expr × α)}
    (h : ∀ arm ∈ before, match? types st arm.1 v = .ok none) (after : List (Expr × α)) :
    first? types st v (before ++ after) = first? types st v after := by
  induction before with
  | nil => rfl
  | cons arm rest ih =>
      rw [List.forall_mem_cons] at h
      rw [List.cons_append, first?, h.1]
      exact ih h.2

/-- An alternative that matches is chosen, whatever comes behind it. -/
lemma first?_cons_of_some {p : Expr} {bs : Bindings} (h : match? types st p v = .ok (some bs))
    (a : α) (after : List (Expr × α)) :
    first? types st v ((p, a) :: after) = .ok (some (a, bs)) := by
  rw [first?, h]

/-- `arm` has the number `i` and is the first of the arms whose pattern the value matches. -/
structure IsFirstMatch (types : Registry) (st : Store) (v : Value) (arms : List (Expr × α))
    (i : Nat) (arm : Expr × α) : Prop where
  getElem? : arms[i]? = some arm
  fits : Matches types st arm.1 v
  before : ∀ j < i, ∀ other, arms[j]? = some other → ¬ Matches types st other.1 v

/-- The arms, each with its number in place of what it does. -/
def numbered (arms : List (Expr × α)) : List (Expr × Nat) :=
  arms.zipIdx.map fun x => (x.1.1, x.2)

lemma getElem?_numbered (arms : List (Expr × α)) (i : Nat) :
    (numbered arms)[i]? = arms[i]?.map fun arm => (arm.1, i) := by
  simp [numbered, Function.comp_def]

lemma isFirstMatch_numbered {arms : List (Expr × α)} {i : Nat} {arm : Expr × Nat} :
    IsFirstMatch types st v (numbered arms) i arm ↔
      arm.2 = i ∧ ∃ a, IsFirstMatch types st v arms i (arm.1, a) := by
  have hbefore : (∀ j < i, ∀ other, (numbered arms)[j]? = some other →
      ¬ Matches types st other.1 v) ↔
      ∀ j < i, ∀ other, arms[j]? = some other → ¬ Matches types st other.1 v := by
    simp only [getElem?_numbered, Option.map_eq_some_iff, forall_exists_index, and_imp,
      forall_apply_eq_imp_iff₂]
  obtain ⟨p, k⟩ := arm
  constructor
  · rintro ⟨hi, hm, hlt⟩
    simp only [getElem?_numbered, Option.map_eq_some_iff, Prod.mk.injEq] at hi
    obtain ⟨⟨q, a⟩, hq, rfl, rfl⟩ := hi
    exact ⟨rfl, a, hq, hm, hbefore.mp hlt⟩
  · rintro ⟨rfl, a, hi, hm, hlt⟩
    exact ⟨by simp [getElem?_numbered, hi], hm, hbefore.mpr hlt⟩

/-- What is chosen is the first match. -/
lemma isFirstMatch_of_first? {arms : List (Expr × α)} {a : α} {bs : Bindings}
    (h : first? types st v arms = .ok (some (a, bs))) :
    ∃ i p, IsFirstMatch types st v arms i (p, a) ∧ Binds st p v bs ∧ (bs.map Prod.fst).Nodup := by
  induction arms with
  | nil => simp [first?] at h
  | cons arm rest ih =>
      obtain ⟨p, a'⟩ := arm
      rcases hp : match? types st p v with e | _ | cs
      · simp [first?, hp] at h
      · obtain ⟨i, q, hq, hb, hnodup⟩ := ih (by simpa [first?, hp] using h)
        refine ⟨i + 1, q, ⟨hq.getElem?, hq.fits, fun j hj other hother => ?_⟩, hb, hnodup⟩
        cases j with
        | zero =>
            obtain rfl : (p, a') = other := by simpa using hother
            exact not_matches_of_bindings? p (match?_eq_ok_iff.mp hp).2
        | succ j => exact hq.before j (by omega) other hother
      · obtain ⟨rfl, rfl⟩ : a' = a ∧ cs = bs := by simpa [first?, hp] using h
        obtain ⟨hvalid, hcs⟩ := match?_eq_ok_iff.mp hp
        obtain ⟨hm, hb⟩ := match_of_bindings? p hcs
        refine ⟨0, p, ⟨rfl, hm, fun j hj => absurd hj (by omega)⟩, hb, ?_⟩
        rw [BindsPaths.map_fst hb]
        exact nodup_names hvalid

/-- Where nothing is chosen no arm matches. -/
lemma not_matches_of_first? {arms : List (Expr × α)} (h : first? types st v arms = .ok none) :
    ∀ arm ∈ arms, ¬ Matches types st arm.1 v := by
  induction arms with
  | nil => simp
  | cons arm rest ih =>
      obtain ⟨p, a⟩ := arm
      rcases hp : match? types st p v with e | _ | cs
      · simp [first?, hp] at h
      · rw [List.forall_mem_cons]
        exact ⟨not_matches_of_bindings? p (match?_eq_ok_iff.mp hp).2,
          ih (by simpa [first?, hp] using h)⟩
      · simp [first?, hp] at h

/-- The arms are validated and the classes in their patterns are known. -/
def ArmsPass (types : Registry) (arms : List (Expr × α)) : Prop :=
  ∀ arm ∈ arms, validate arm.1 = .ok () ∧ Resolves types arm.1

lemma ArmsPass.numbered {arms : List (Expr × α)} (h : ArmsPass types arms) :
    ArmsPass types (numbered arms) := by
  intro x hx
  obtain ⟨⟨arm, i⟩, hmem, rfl⟩ := List.mem_map.mp hx
  exact h arm (List.fst_mem_of_mem_zipIdx hmem)

/-- The search for an arm does not fail. -/
lemma ArmsPass.exists_first? {arms : List (Expr × α)} (h : ArmsPass types arms) :
    ∃ o, first? types st v arms = .ok o := by
  induction arms with
  | nil => exact ⟨none, rfl⟩
  | cons arm rest ih =>
      obtain ⟨⟨hvalid, hres⟩, hrest⟩ := List.forall_mem_cons.mp h
      obtain ⟨seen, hseen⟩ := validate_eq_ok_iff.mp hvalid
      obtain ⟨o, ho⟩ : ∃ o, bindings? types st arm.1 v = .ok o :=
        exists_bindings? arm.1 hseen hres v
      have hmatch : match? types st arm.1 v = .ok o := match?_eq_ok_iff.mpr ⟨hvalid, ho⟩
      cases o with
      | none => simpa [first?, hmatch] using ih hrest
      | some bs => exact ⟨some (arm.2, bs), by simp [first?, hmatch]⟩

/-- The first match is chosen, whatever comes behind it. -/
lemma ArmsPass.first?_eq {arms : List (Expr × α)} (hpass : ArmsPass types arms) {i : Nat}
    {arm : Expr × α} {bs : Bindings} (h : IsFirstMatch types st v arms i arm)
    (hb : Binds st arm.1 v bs) (after : List (Expr × α)) :
    first? types st v (arms.take (i + 1) ++ after) = .ok (some (arm.2, bs)) := by
  have hbefore : ∀ other ∈ arms.take i, match? types st other.1 v = .ok none := by
    intro other hother
    obtain ⟨hvalid, hres⟩ := hpass other (List.mem_of_mem_take hother)
    obtain ⟨j, hj, hget⟩ := List.mem_take_iff_getElem.mp hother
    refine (match?_eq_none_iff hvalid hres).mpr (h.before j (by omega) other ?_)
    rw [← hget]
    exact List.getElem?_eq_getElem _
  have harm : match? types st arm.1 v = .ok (some bs) := by
    obtain ⟨hvalid, hres⟩ := hpass arm (List.mem_of_getElem? h.getElem?)
    exact (match?_eq_some_iff hvalid hres).mpr ⟨h.fits, hb⟩
  rw [List.take_add_one, h.getElem?, Option.toList_some, List.append_assoc,
    first?_append_of_none hbefore]
  exact first?_cons_of_some harm arm.2 after

end

/-- **The first matching arm**: among arms that pass, the one chosen is the first whose pattern the
value matches, the bindings are the names of its pattern with the subvalues at their paths, no name
twice, and nothing is chosen only if there is no such arm. What stands behind the chosen arm, and be it
no pattern at all, does not matter. -/
theorem first?_iff_isFirstMatch {α : Type} (types : Registry) (st : Store) (v : Value)
    (arms : List (Expr × α)) (hpass : ArmsPass types arms) :
    (∀ i bs, first? types st v (numbered arms) = .ok (some (i, bs)) ↔
      ∃ arm, IsFirstMatch types st v arms i arm ∧ Binds st arm.1 v bs ∧
        (bs.map Prod.fst).Nodup) ∧
    (first? types st v (numbered arms) = .ok none ↔
      ¬ ∃ i arm, IsFirstMatch types st v arms i arm) ∧
    ∀ i arm bs, IsFirstMatch types st v arms i arm → Binds st arm.1 v bs → ∀ after,
      first? types st v (arms.take (i + 1) ++ after) = .ok (some (arm.2, bs)) := by
  refine ⟨fun i bs => ⟨fun h => ?_, ?_⟩, ⟨fun h => ?_, fun h => ?_⟩, fun i arm bs h hb after =>
    hpass.first?_eq h hb after⟩
  · obtain ⟨j, p, hfirst, hb, hnodup⟩ := isFirstMatch_of_first? h
    obtain ⟨rfl, a, ha⟩ := isFirstMatch_numbered.mp hfirst
    exact ⟨(p, a), ha, hb, hnodup⟩
  · rintro ⟨arm, hfirst, hb, -⟩
    have hnum : IsFirstMatch types st v (numbered arms) i (arm.1, i) :=
      isFirstMatch_numbered.mpr ⟨rfl, arm.2, hfirst⟩
    have h := hpass.numbered.first?_eq hnum hb ((numbered arms).drop (i + 1))
    rwa [List.take_append_drop] at h
  · rintro ⟨i, arm, hfirst⟩
    have hnum : IsFirstMatch types st v (numbered arms) i (arm.1, i) :=
      isFirstMatch_numbered.mpr ⟨rfl, arm.2, hfirst⟩
    exact not_matches_of_first? h _ (List.mem_of_getElem? hnum.getElem?) hnum.fits
  · obtain ⟨o, ho⟩ : ∃ o, first? types st v (numbered arms) = .ok o := hpass.numbered.exists_first?
    cases o with
    | none => exact ho
    | some r =>
        obtain ⟨i, p, hfirst, -, -⟩ := isFirstMatch_of_first? ho
        obtain ⟨-, a, ha⟩ := isFirstMatch_numbered.mp hfirst
        exact absurd ⟨i, (p, a), ha⟩ h

/-- A class pattern behind a literal that does not fit: the second arm is chosen for an object, with the
field that the pattern names. -/
theorem first?_object_second_arm :
    let c : Class := ⟨0, "Point", none, .empty, default⟩
    let types : Registry := .ofList [("Point", .ofClass c)]
    let st : Store := { records := #[.ofList [("x", .string "left"), ("y", .nil)]] }
    let point : Expr := .callNamed (.typeRef ⟨["Point"], default⟩)
      [("y", .literal .null default), ("x", .identifier "a" default)] default
    let arms : List (Expr × Unit) := [(.literal .null default, ()), (point, ())]
    ArmsPass types arms ∧
      first? types st (.object c ⟨0⟩) (numbered arms) = .ok (some (1, [("a", .string "left")])) := by
  intro c types st point arms
  have hclass : types.resolveClass ⟨["Point"], default⟩ = .ok c := rfl
  have hpass : ArmsPass types arms := by
    intro arm harm
    simp only [arms, List.mem_cons, List.not_mem_nil, or_false] at harm
    rcases harm with rfl | rfl
    · exact ⟨rfl, by simp [Resolves, nodes, ResolvesNode]⟩
    · exact ⟨rfl, by simp [Resolves, point, nodes, fieldNodes, ResolvesNode, hclass]⟩
  refine ⟨hpass, ((first?_iff_isFirstMatch types st (.object c ⟨0⟩) arms hpass).1 1 _).mpr
    ⟨(point, ()), ⟨rfl, ?_, ?_⟩, rfl, by decide⟩⟩
  · refine (matchesNodes_root _ _).mpr ⟨⟨c, c, ⟨0⟩, hclass, rfl, rfl⟩, ?_⟩
    simp only [MatchesNodes, fieldNodes, nodes, List.map_cons, List.map_nil, List.cons_append,
      List.nil_append, List.forall_mem_cons]
    exact ⟨⟨.nil, rfl, rfl⟩, ⟨.string "left", rfl, trivial⟩, by simp⟩
  · intro j hj other hother
    obtain rfl : j = 0 := by omega
    obtain rfl : (.literal .null default, ()) = other := by simpa [arms] using hother
    simp [Matches, nodes, MatchesNodes, Value.at?, Fits, Denotes]

end Pattern

end RecordLang
