import RecordLang.Proofs.Construction
import RecordLang.Proofs.Equality
import RecordLang.Proofs.Frames

/-!
Matching takes apart what evaluation builds, and evaluation rebuilds what matching takes apart.

* `Pattern.isTemplateNode`: what a text may consist of for the first of the two.
* `Pattern.bindings?_of_builds`: the match of a text with what it has built.
* `matching_undoes_construction`: what a text has built matches it, and the match binds every identifier
  to what it stood for.
* `Pattern.Restricts`: a value is another one cut down to what a pattern mentions of it.
* `Pattern.restricts_of_builds`: what a pattern builds out of the bindings of a match.
* `matched_pattern_rebuilds_restriction`: a pattern evaluated under the bindings of a match gives a
  restriction of the value matched, and it fails at most at a class.
-/

namespace RecordLang

/-! ### Tables within tables -/

namespace Table

variable {α : Type}

/-- What stands in the one table stands in the other. -/
def Within (t t' : Table α) : Prop :=
  ∀ x a, t.find? x = some a → t'.find? x = some a

lemma Within.refl (t : Table α) : t.Within t :=
  fun _ _ h => h

section

variable {pair : String × α} {pairs : List (String × α)} {t : Table α}

/-- Later pairs count before the first. -/
lemma Within.tail (h : (ofList (pair :: pairs)).Within t) : (ofList pairs).Within t := by
  intro x a hx
  refine h x a ?_
  rw [find?_ofList_cons, hx, Option.some_or]

/-- The first pair counts if no later one has its key. -/
lemma Within.head (h : (ofList (pair :: pairs)).Within t) (hnew : pair.1 ∉ pairs.map Prod.fst) :
    t.find? pair.1 = some pair.2 := by
  refine h pair.1 pair.2 ?_
  rw [find?_ofList_cons, find?_ofList_eq_none hnew, if_pos rfl, Option.none_or]

end

end Table

namespace Pattern

/-! ### What matching gives back -/

/-- Whether a text with this node can be matched with what it builds: an identifier must bind, a number
must equal itself, and a record or class must not mention a field twice. -/
def isTemplateNode : Expr → Bool
  | .identifier name _ => name != wildcard
  | .literal (.number x) _ => !x.isNaN
  | .literal _ _ => true
  | .record fields _ => decide (fields.map Prod.fst).Nodup
  | .callNamed (.typeRef _) fields _ => decide (fields.map Prod.fst).Nodup
  | _ => false

/-- The names that the patterns of fields bind. -/
def fieldNames (fields : List (String × Expr)) : List String :=
  ((fieldNodes fields).filterMap binder?).map Prod.fst

lemma fieldNames_cons (name : String) (p : Expr) (rest : List (String × Expr)) :
    fieldNames ((name, p) :: rest) = names p ++ fieldNames rest := by
  rw [fieldNames, fieldNodes, List.filterMap_append, filterMap_binder?_map_cons, List.map_append,
    List.map_map]
  rfl

/-- A condition on the nodes of fields is one on the nodes of each. -/
lemma forall_fieldNodes_cons (P : Expr → Prop) {name : String} {p : Expr}
    {rest : List (String × Expr)} :
    (∀ n ∈ fieldNodes ((name, p) :: rest), P n.2) ↔
      (∀ n ∈ nodes p, P n.2) ∧ ∀ n ∈ fieldNodes rest, P n.2 := by
  rw [fieldNodes, List.forall_mem_append, List.forall_mem_map]

section

variable {types : Registry} {look : String → Option Value} {st : Store}

lemma literalMatches_ofLiteral {l : Literal} {span : Span}
    (h : isTemplateNode (.literal l span) = true) : literalMatches l (.ofLiteral l) = true := by
  cases l with
  | number x => exact (beq_number_self x).trans h
  | string s => exact beq_self_eq_true s
  | boolean b => exact beq_self_eq_true b
  | null => rfl

mutual

/-- A text matches what it has built, and the match finds for every name what `look` finds. -/
theorem bindings?_of_builds (e : Expr) (hnodes : ∀ n ∈ nodes e, isTemplateNode n.2 = true) {v : Value}
    (h : Builds types look st e v) :
    ∃ bs, bindings? types st e v = .ok (some bs) ∧
      bs.map (fun b => (b.1, some b.2)) = (names e).map fun x => (x, look x) := by
  cases e with
  | identifier name span =>
      have hname : name ≠ wildcard := by simpa [nodes, isTemplateNode] using hnodes
      cases h with
      | identifier hv =>
          refine ⟨[(name, v)], by simp only [bindings?, if_neg hname], ?_⟩
          simp [names, binders, nodes, binder?, hname, hv]
  | literal l span =>
      have hliteral : literalMatches l (.ofLiteral l) = true :=
        literalMatches_ofLiteral (hnodes _ List.mem_cons_self)
      cases h
      exact ⟨[], by simp only [bindings?, hliteral, if_true], rfl⟩
  | record fields span =>
      rw [nodes, List.forall_mem_cons] at hnodes
      cases h with
      | @record _ _ pairs r hfields hr hrecord =>
          obtain ⟨bs, hbs, hfinds⟩ := fieldBindings?_of_builds fields hnodes.2
            (of_decide_eq_true hnodes.1) hfields (.refl _)
          refine ⟨bs, bindings?_record_eq_ok.mpr (Or.inl ⟨r, rfl, ?_⟩), hfinds⟩
          rw [hrecord, hbs]
  | callNamed callee fields span =>
      rw [nodes, List.forall_mem_cons] at hnodes
      cases h with
      | @object path _ _ c pairs r hclass hfields hr hrecord =>
          obtain ⟨bs, hbs, hfinds⟩ := fieldBindings?_of_builds fields hnodes.2
            (of_decide_eq_true hnodes.1) hfields (.refl _)
          have hresolve : types.resolveClass path = .ok c := by rw [Registry.resolveClass, hclass]
          refine ⟨bs, bindings?_class_eq_ok.mpr ⟨c, hresolve, Or.inl ⟨c, r, rfl, rfl, ?_⟩⟩, hfinds⟩
          rw [hrecord, hbs]
  | _ => cases h

theorem fieldBindings?_of_builds (fields : List (String × Expr))
    (hnodes : ∀ n ∈ fieldNodes fields, isTemplateNode n.2 = true)
    (hnodup : (fields.map Prod.fst).Nodup) {pairs : List (String × Value)}
    (h : BuildsFields types look st fields pairs) {found : Table Value}
    (hfound : (Table.ofList pairs).Within found) :
    ∃ bs, fieldBindings? types st fields found = .ok (some bs) ∧
      bs.map (fun b => (b.1, some b.2)) = (fieldNames fields).map fun x => (x, look x) := by
  cases fields with
  | nil => exact ⟨[], rfl, rfl⟩
  | cons field rest =>
      obtain ⟨name, e⟩ := field
      obtain ⟨hhead, htail⟩ := (forall_fieldNodes_cons (isTemplateNode · = true)).mp hnodes
      rw [List.map_cons, List.nodup_cons] at hnodup
      cases h with
      | @cons _ _ v _ pairs hfield hrest =>
          have hnew : name ∉ pairs.map Prod.fst := by
            rw [hrest.keys_eq]
            exact hnodup.1
          obtain ⟨bs, hbs, hfinds⟩ := bindings?_of_builds e hhead hfield
          obtain ⟨cs, hcs, hfinds'⟩ := fieldBindings?_of_builds rest htail hnodup.2 hrest hfound.tail
          refine ⟨bs ++ cs, ?_, ?_⟩
          · exact fieldBindings?_cons_eq_some.mpr ⟨v, bs, cs, hfound.head hnew, hbs, hcs, rfl⟩
          · rw [fieldNames_cons, List.map_append, List.map_append, hfinds, hfinds']

end

end

end Pattern

/-- **Matching undoes construction.** A text of identifiers other than `_`, literals other than NaN,
records and classes with named arguments, which mentions no field twice in one of them and passes
validation: if it evaluates to a value, then that value matches it in the same registry, and the match
binds the identifiers of the text, from left to right, to what they stood for. -/
theorem matching_undoes_construction (config : Config) (room : Nat) (e : Expr)
    (hnodes : ∀ n ∈ Pattern.nodes e, Pattern.isTemplateNode n.2 = true)
    (hvalid : Pattern.validate e = .ok ()) (s t : State) (v : Value)
    (h : e.eval (config.env room) s = .ok v t) :
    t.types = s.types ∧ ∃ bs, Pattern.match? s.types t.store e v = .ok (some bs) ∧
      bs.map (fun b => (b.1, some b.2)) = (Pattern.names e).map fun x => (x, s.lookup x) := by
  obtain ⟨seen, hseen⟩ := Pattern.validate_eq_ok_iff.mp hvalid
  obtain ⟨hadds, hbuilds⟩ := eval_builds e hseen h
  obtain ⟨bs, hbs, hfinds⟩ := Pattern.bindings?_of_builds e hnodes hbuilds
  exact ⟨hadds.types_eq, bs, Pattern.match?_eq_ok_iff.mpr ⟨hvalid, hbs⟩, hfinds⟩

/-- A box is made of a list and a label, and taken apart again. -/
theorem box_taken_apart :
    let box : Class :=
      ⟨0, "Box", none, .ofList [("items", .list (.primitive .any)), ("label", .primitive .any)],
        default⟩
    let s : State :=
      { store :=
          { frames := #[.ofList [("size", .boolean true), ("tools", .list ⟨0⟩)]], lists := #[#[.nil]] },
        scope := ⟨[], ⟨0⟩⟩, types := .ofList [("Box", .ofClass box)] }
    let e : Expr := .callNamed (.typeRef ⟨["Box"], default⟩)
      [("items", .identifier "tools" default),
        ("label", .record [("text", .literal (.string "tools") default),
          ("large", .identifier "size" default)] default)] default
    ∃ v t bs, e.eval (Config.env default 0) s = .ok v t ∧
      Pattern.match? s.types t.store e v = .ok (some bs) ∧
      bs.map (fun b => (b.1, some b.2))
        = [("tools", some (.list ⟨0⟩)), ("size", some (.boolean true))] := by
  intro box s e
  obtain ⟨-, bs, hmatch, hbs⟩ :=
    matching_undoes_construction default 0 e (by decide) rfl s _ _ rfl
  exact ⟨_, _, bs, rfl, hmatch, hbs⟩

namespace Pattern

/-! ### What evaluation gives back -/

section

variable (st st' : Store)

mutual

/-- `w`, which lives in `st'`, is what the pattern mentions of `v`, which lives in `st`: the same value
at an identifier, an equal one at a literal, a plain record at a record and an object of the same class
at a class, with just the fields mentioned there, each cut down in turn. -/
def Restricts : Expr → Value → Value → Prop
  | .identifier _ _, v, w => w = v
  | .literal _ _, v, w => w.equal st' v = true
  | .record fields _, v, w =>
      ∃ r q, v = .record r ∧ w = .record q ∧
        (∀ x, (st'.record q).contains x = true ↔ x ∈ fields.map Prod.fst) ∧
        RestrictsFields fields (st.record r) (st'.record q)
  | .callNamed _ fields _, v, w =>
      ∃ c d r q, v = .object c r ∧ w = .object d q ∧ d.id = c.id ∧
        (∀ x, (st'.record q).contains x = true ↔ x ∈ fields.map Prod.fst) ∧
        RestrictsFields fields (st.record r) (st'.record q)
  | _, _, _ => False

/-- Each field mentioned is there in both tables, cut down by the last pattern that mentions it. -/
def RestrictsFields : List (String × Expr) → Table Value → Table Value → Prop
  | [], _, _ => True
  | (name, p) :: rest, found, made =>
      (name ∉ rest.map Prod.fst →
        ∃ v w, found.find? name = some v ∧ made.find? name = some w ∧ Restricts p v w) ∧
      RestrictsFields rest found made

end

end

/-- Whether the pattern is the one that binds nothing. -/
def isWildcard : Expr → Bool
  | .identifier name _ => name == wildcard
  | _ => false

/-- Whether the pattern asks for a class. -/
def isClassNode : Expr → Bool
  | .callNamed .. => true
  | _ => false

section

variable {types : Registry} {look : String → Option Value} {st st' : Store}

lemma equal_ofLiteral {l : Literal} {v : Value} (h : literalMatches l v = true) (st : Store) :
    (Value.ofLiteral l).equal st v = true := by
  rw [literalMatches_iff] at h
  cases l with
  | number x =>
      obtain ⟨y, rfl, hy⟩ := h
      rw [Value.equal, Value.ofLiteral, Value.equalWithin]
      exact hy
  | string s | boolean b =>
      cases h
      rw [Value.equal, Value.ofLiteral, Value.equalWithin]
      exact beq_self_eq_true _
  | null =>
      cases h
      rw [Value.equal, Value.ofLiteral, Value.equalWithin]

mutual

/-- What a pattern builds out of the bindings of a match restricts the value matched. -/
theorem restricts_of_builds (p : Expr) (hnodes : ∀ n ∈ nodes p, isWildcard n.2 = false) {v w : Value}
    {bs : Bindings} (hmatch : bindings? types st p v = .ok (some bs))
    (hlook : ∀ b ∈ bs, look b.1 = some b.2) (hbuilds : Builds types look st' p w) :
    Restricts st st' p v w := by
  cases p with
  | identifier name span =>
      have hname : name ≠ wildcard := by simpa [nodes, isWildcard] using hnodes
      simp only [bindings?, if_neg hname, Except.ok.injEq, Option.some.injEq] at hmatch
      subst hmatch
      have hv : look name = some v := hlook _ List.mem_cons_self
      cases hbuilds with
      | identifier hw => exact Option.some.inj (hw.symm.trans hv)
  | literal l span =>
      simp only [bindings?, Except.ok.injEq, Option.ite_none_right_eq_some] at hmatch
      cases hbuilds
      exact equal_ofLiteral hmatch.1 st'
  | record fields span =>
      rw [nodes, List.forall_mem_cons] at hnodes
      obtain ⟨r, rfl, hfound⟩ | ⟨-, hnone⟩ := bindings?_record_eq_ok.mp hmatch
      · cases hbuilds with
        | @record _ _ pairs q hfields hq hrecord =>
            refine ⟨r, q, rfl, rfl, ?_⟩
            rw [hrecord]
            exact ⟨hfields.contains_iff,
              restrictsFields_of_builds fields hnodes.2 hfound hlook hfields (.refl _)⟩
      · cases hnone
  | callNamed callee fields span =>
      rw [nodes, List.forall_mem_cons] at hnodes
      cases hbuilds with
      | @object path _ _ d pairs q hclass hfields hq hrecord =>
          obtain ⟨c, hc, ⟨c', r, rfl, hid, hfound⟩ | ⟨-, hnone⟩⟩ := bindings?_class_eq_ok.mp hmatch
          · rw [Registry.resolveClass, hclass] at hc
            cases hc
            refine ⟨c', d, r, q, rfl, rfl, hid.symm, ?_⟩
            rw [hrecord]
            exact ⟨hfields.contains_iff,
              restrictsFields_of_builds fields hnodes.2 hfound hlook hfields (.refl _)⟩
          · cases hnone
  | _ => cases hbuilds

theorem restrictsFields_of_builds (fields : List (String × Expr))
    (hnodes : ∀ n ∈ fieldNodes fields, isWildcard n.2 = false) {found : Table Value} {bs : Bindings}
    (hmatch : fieldBindings? types st fields found = .ok (some bs))
    (hlook : ∀ b ∈ bs, look b.1 = some b.2) {pairs : List (String × Value)}
    (hbuilds : BuildsFields types look st' fields pairs) {made : Table Value}
    (hmade : (Table.ofList pairs).Within made) : RestrictsFields st st' fields found made := by
  cases fields with
  | nil => exact trivial
  | cons field rest =>
      obtain ⟨name, p⟩ := field
      obtain ⟨hhead, htail⟩ := (forall_fieldNodes_cons (isWildcard · = false)).mp hnodes
      obtain ⟨v, as, cs, hv, has, hcs, rfl⟩ := fieldBindings?_cons_eq_some.mp hmatch
      obtain ⟨hlook, hlook'⟩ := List.forall_mem_append.mp hlook
      cases hbuilds with
      | @cons _ _ w _ pairs hfield hrest =>
          -- every mention was matched, but only the last one of a name was built into the record
          refine ⟨fun hlast => ⟨v, w, hv, hmade.head ?_, ?_⟩, ?_⟩
          · rw [hrest.keys_eq]
            exact hlast
          · exact restricts_of_builds p hhead has hlook hfield
          · exact restrictsFields_of_builds rest htail hcs hlook' hrest hmade.tail

end

end

/-- Evaluation cannot fail at the node: it is no class, and an identifier stands for something. -/
def Stands (look : String → Option Value) : Expr → Prop
  | .identifier name _ => ∃ v, look name = some v
  | .callNamed .. => False
  | _ => True

/-- Of a pattern without `_` and classes, all nodes stand if the names that it binds do. -/
lemma stands_of_mem_nodes {look : String → Option Value} {p : Expr} {n : List String × Expr}
    (hlook : ∀ x ∈ names p, ∃ v, look x = some v) (hmem : n ∈ nodes p)
    (hwildcard : isWildcard n.2 = false) (hclass : isClassNode n.2 = false) : Stands look n.2 := by
  obtain ⟨path, e⟩ := n
  cases e with
  | identifier name span =>
      have hname : name ≠ wildcard := by simpa [isWildcard] using hwildcard
      have hbinder : binder? (path, .identifier name span) = some (name, path) := if_neg hname
      refine hlook name (List.mem_map.mpr ⟨(name, path), ?_, rfl⟩)
      exact List.mem_filterMap.mpr ⟨_, hmem, hbinder⟩
  | callNamed callee fields span => cases hclass
  | _ => trivial

section

variable {config : Config} {room : Nat}

mutual

/-- A pattern without classes whose identifiers all stand for something can be evaluated. -/
theorem exists_eval (p : Expr) {seen seen' : List String} (hvalid : validateAfter seen p = .ok seen')
    {s : State} (hnodes : ∀ n ∈ nodes p, Stands s.lookup n.2) :
    ∃ v t, p.eval (config.env room) s = .ok v t := by
  cases p with
  | identifier name span =>
      obtain ⟨v, hv⟩ : ∃ v, s.lookup name = some v := hnodes _ List.mem_cons_self
      refine ⟨v, s, ?_⟩
      rw [Expr.eval, lift_apply, getName, get_bind_apply, hv]
      rfl
  | literal l span => exact ⟨_, s, rfl⟩
  | record fields span =>
      rw [nodes, List.forall_mem_cons] at hnodes
      rw [validateAfter] at hvalid
      obtain ⟨pairs, t, hpairs⟩ := exists_evalFields fields hvalid hnodes.2
      rw [Expr.eval, bind_apply, hpairs]
      exact ⟨_, _, rfl⟩
  | callNamed callee fields span => exact absurd (hnodes _ List.mem_cons_self) id
  | _ => cases hvalid

theorem exists_evalFields (fields : List (String × Expr)) {seen seen' : List String}
    (hvalid : validateFields seen fields = .ok seen') {s : State}
    (hnodes : ∀ n ∈ fieldNodes fields, Stands s.lookup n.2) :
    ∃ pairs t, Expr.evalFields (config.env room) fields s = .ok pairs t := by
  cases fields with
  | nil => exact ⟨[], s, rfl⟩
  | cons field rest =>
      obtain ⟨name, p⟩ := field
      obtain ⟨hhead, htail⟩ := (forall_fieldNodes_cons (Stands s.lookup)).mp hnodes
      obtain ⟨mid, hfirst, hlater⟩ := exists_of_validateFields_cons hvalid
      obtain ⟨v, t, hv⟩ := exists_eval p hfirst hhead
      rw [← (eval_builds p hfirst hv).1.lookup_eq] at htail
      obtain ⟨pairs, u, hpairs⟩ := exists_evalFields rest hlater htail
      refine ⟨(name, v) :: pairs, u, ?_⟩
      rw [Expr.evalFields, bind_apply, hv]
      dsimp only
      rw [bind_apply, hpairs]
      rfl

end

end

end Pattern

/-- **A matched pattern rebuilds a restriction of its value.** Let a value match a pattern without `_`,
in any store. In a state with the same registry, whose innermost frame holds just the bindings of the
match, the pattern evaluates to a restriction of the value if it evaluates to anything, and changes
nothing that exists; and it does evaluate if it asks for no class. -/
theorem matched_pattern_rebuilds_restriction (config : Config) (room : Nat) (types : Registry)
    (st : Store) (v : Value) (p : Expr) (bs : Bindings)
    (hnodes : ∀ n ∈ Pattern.nodes p, Pattern.isWildcard n.2 = false)
    (hmatch : Pattern.match? types st p v = .ok (some bs)) (s : State) (htypes : s.types = types)
    (hframe : ∀ x, (s.store.frame s.scope.top).find? x = bs.lookup x) :
    (∀ w t, p.eval (config.env room) s = .ok w t →
      s.AddsRecords t ∧ Pattern.Restricts st t.store p v w) ∧
      ((∀ n ∈ Pattern.nodes p, Pattern.isClassNode n.2 = false) →
        ∃ w t, p.eval (config.env room) s = .ok w t) := by
  subst htypes
  obtain ⟨hvalid, hbindings⟩ := Pattern.match?_eq_ok_iff.mp hmatch
  obtain ⟨seen, hseen⟩ := Pattern.validate_eq_ok_iff.mp hvalid
  have hnames : bs.map Prod.fst = Pattern.names p :=
    (Pattern.match_of_bindings? p hbindings).2.map_fst
  have hlook : ∀ b ∈ bs, s.lookup b.1 = some b.2 := by
    intro b hb
    have hb' : bs.lookup b.1 = some b.2 :=
      Table.lookup_eq_some_of_mem (hnames ▸ Pattern.nodup_names hvalid) hb
    exact State.lookup_of_top ((hframe b.1).trans hb')
  refine ⟨fun w t h => ?_, fun hclass => Pattern.exists_eval p hseen fun n hn => ?_⟩
  · obtain ⟨hadds, hbuilds⟩ := eval_builds p hseen h
    exact ⟨hadds, Pattern.restricts_of_builds p hnodes hbindings hlook hbuilds⟩
  · refine Pattern.stands_of_mem_nodes (fun x hx => ?_) hn (hnodes n hn) (hclass n hn)
    rw [← hnames] at hx
    obtain ⟨b, hb, rfl⟩ := List.mem_map.mp hx
    exact ⟨b.2, hlook b hb⟩

/-- A box is taken apart by a pattern that mentions its label twice. Rebuilt, it is a box again whose
label has the one field that the second mention asks for. -/
theorem box_rebuilt_with_shorter_label :
    let box : Class :=
      ⟨0, "Box", none, .ofList [("items", .list (.primitive .any)), ("label", .primitive .any)],
        default⟩
    let types : Registry := .ofList [("Box", .ofClass box)]
    let st : Store :=
      { lists := #[#[.nil]],
        records := #[.ofList [("text", .string "tools"), ("large", .boolean true)],
          .ofList [("items", .list ⟨0⟩), ("label", .record ⟨0⟩)]] }
    let p : Expr := .callNamed (.typeRef ⟨["Box"], default⟩)
      [("label", .identifier "whole" default), ("items", .identifier "tools" default),
        ("label", .record [("text", .literal (.string "tools") default)] default)] default
    let bs : Bindings := [("whole", .record ⟨0⟩), ("tools", .list ⟨0⟩)]
    let s : State :=
      { store := { st with frames := #[.ofList bs] }, scope := ⟨[], ⟨0⟩⟩, types }
    Pattern.match? types st p (.object box ⟨1⟩) = .ok (some bs) ∧
      ∃ w t, p.eval (Config.env default 0) s = .ok w t ∧
        Pattern.Restricts st t.store p (.object box ⟨1⟩) w := by
  intro box types st p bs s
  have hmatch : Pattern.match? types st p (.object box ⟨1⟩) = .ok (some bs) := rfl
  have hrebuilt := matched_pattern_rebuilds_restriction default 0 types st (.object box ⟨1⟩) p bs
    (by decide) hmatch s rfl fun _ => rfl
  exact ⟨hmatch, _, _, rfl, (hrebuilt.1 _ _ rfl).2⟩

end RecordLang
