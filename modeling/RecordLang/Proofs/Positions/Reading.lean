import RecordLang.Proofs.Positions

/-!
Pure parts of evaluation do not look at positions.

Texts, comparisons, operators, access to fields and items, conformance and matching: each of them, done
without places, gives what it gives with them, only that the places are forgotten in it. Where it fails,
it fails with the same error at a forgotten place.

* `unplacedExcept`: the answer of a computation without places, and `unplacedExcept_bind` for two in a
  row.
* `Store.frame_unplaced`, `Store.lookup_unplaced` and others: reading the store.
* `Value.text_unplaced`, `Value.equal_unplaced`: texts and comparisons.
* `Registry.resolve_unplaced`, `Shape.check_unplaced`, `Pattern.first?_unplaced` and others: types and
  patterns.
-/

namespace RecordLang

/-! ### Answers -/

/-- The answer of a computation without places: what it gives is changed by `f`. -/
def unplacedExcept {α β : Type} (f : α → β) : Except Error α → Except Error β
  | .ok a => .ok (f a)
  | .error e => .error e.unplaced

section

variable {α β γ δ : Type}

@[simp] lemma unplacedExcept_ok (f : α → β) (a : α) :
    unplacedExcept f (.ok a : Except Error α) = .ok (f a) :=
  rfl

/-- Two computations in a row. -/
lemma unplacedExcept_bind {f : α → β} {g : γ → δ} {x : Except Error α} {k : α → Except Error γ}
    {k' : β → Except Error δ} (hk : ∀ a, k' (f a) = unplacedExcept g (k a)) :
    unplacedExcept f x >>= k' = unplacedExcept g (x >>= k) := by
  cases x with
  | ok a => exact hk a
  | error e => rfl

lemma unplacedExcept_map {f : α → β} {g : γ → δ} {k : α → γ} {k' : β → δ} {x : Except Error α}
    (hk : ∀ a, k' (f a) = g (k a)) :
    (unplacedExcept f x).map k' = unplacedExcept g (x.map k) := by
  cases x with
  | ok a => exact congrArg Except.ok (hk a)
  | error e => rfl

/-- A test of all members, up to the first that fails it. -/
lemma unplacedExcept_allM {f : α → β} {p : α → Except Error Bool} {p' : β → Except Error Bool}
    (h : ∀ a, p' (f a) = unplacedExcept id (p a)) (as : List α) :
    (as.map f).allM p' = unplacedExcept id (as.allM p) := by
  induction as with
  | nil => rfl
  | cons a rest ih =>
      rw [List.map_cons, List.allM, List.allM, h]
      refine unplacedExcept_bind fun b => ?_
      cases b with
      | true => exact ih
      | false => rfl

end

/-! ### The store -/

section

variable (st : Store)

@[simp] lemma Store.frame_unplaced (r : FrameRef) :
    st.unplaced.frame r = (st.frame r).map Value.unplaced := by
  rw [Store.frame, Store.frame, Store.unplaced, Array.getElem?_map]
  cases st.frames[r.index]? <;> rfl

@[simp] lemma Store.list_unplaced (r : ListRef) :
    st.unplaced.list r = (st.list r).map Value.unplaced := by
  rw [Store.list, Store.list, Store.unplaced, Array.getElem?_map]
  cases st.lists[r.index]? <;> simp

@[simp] lemma Store.record_unplaced (r : RecordRef) :
    st.unplaced.record r = (st.record r).map Value.unplaced := by
  rw [Store.record, Store.record, Store.unplaced, Array.getElem?_map]
  cases st.records[r.index]? <;> rfl

@[simp] lemma Store.containers_unplaced : st.unplaced.containers = st.containers := by
  simp only [Store.containers, Store.unplaced, Array.size_map]

@[simp] lemma Store.lookup_unplaced (scope : Scope) (name : String) :
    st.unplaced.lookup scope name = (st.lookup scope name).map Value.unplaced := by
  simp only [Store.lookup, Store.frame_unplaced, Table.find?_map]
  induction scope.frames with
  | nil => rfl
  | cons r rest ih =>
      rw [List.findSome?_cons, List.findSome?_cons]
      cases (st.frame r).find? name with
      | none => exact ih
      | some v => rfl

end

/-! ### Texts and comparisons -/

@[simp] lemma Value.typeName_unplaced (v : Value) : v.unplaced.typeName = v.typeName := by
  cases v <;> rfl

@[simp] lemma Class.displayName_unplaced (c : Class) : c.unplaced.displayName = c.displayName :=
  rfl

@[simp] lemma Class.text_unplaced (c : Class) : c.unplaced.text = c.text :=
  congrArg (c.displayName ++ ·) (Shape.text_unplaced c.shape)

@[simp] lemma Group.text_unplaced (g : Group) : g.unplaced.text = g.text := by
  have hvariant : ∀ c : Class, c.unplaced.shape.text = c.shape.text :=
    fun c => Shape.text_unplaced c.shape
  simp only [Group.text, Group.unplaced, Table.map, List.map_map, Function.comp_def, hvariant]

@[simp] lemma TypeEntry.text_unplaced (entry : TypeEntry) : entry.unplaced.text = entry.text := by
  cases entry with
  | ofClass c => exact c.text_unplaced
  | ofGroup g => exact g.text_unplaced

lemma TypeEntry.toValue_unplaced (entry : TypeEntry) :
    entry.unplaced.toValue = entry.toValue.unplaced := by
  cases entry <;> rfl

section

variable (st : Store)

lemma Value.nestedText_unplaced {text text' : Value → String}
    (h : ∀ v : Value, text' v.unplaced = text v) (v : Value) :
    nestedText text' v.unplaced = nestedText text v := by
  cases v with
  | string s => rfl
  | _ => exact h _

lemma Value.itemsText_unplaced {text text' : Value → String}
    (h : ∀ v : Value, text' v.unplaced = text v) (items : Array Value) :
    itemsText text' (items.map Value.unplaced) = itemsText text items := by
  simp only [itemsText, Array.toList_map, List.map_map, Function.comp_def, nestedText_unplaced h]

lemma Value.fieldsText_unplaced {text text' : Value → String}
    (h : ∀ v : Value, text' v.unplaced = text v) (fields : Table Value) :
    fieldsText text' (fields.map Value.unplaced) = fieldsText text fields := by
  simp only [fieldsText, Table.map, List.map_map, Function.comp_def, nestedText_unplaced h]

lemma Value.textWithin_unplaced (depth : Nat) (v : Value) :
    textWithin st.unplaced depth v.unplaced = textWithin st depth v := by
  induction depth generalizing v with
  | zero => cases v <;> rfl
  | succ depth ih =>
      cases v with
      | list r =>
          simp only [Value.unplaced, textWithin, Store.list_unplaced, itemsText_unplaced ih]
      | record r | object c r =>
          simp only [Value.unplaced, textWithin, Store.record_unplaced, fieldsText_unplaced ih,
            Class.displayName_unplaced]
      | _ => rfl

@[simp] lemma Value.text_unplaced (v : Value) : v.unplaced.text st.unplaced = v.text st := by
  rw [Value.text, Value.text, Store.containers_unplaced, textWithin_unplaced]

lemma Value.equalItems_unplaced {eq eq' : Value → Value → Bool}
    (h : ∀ v w : Value, eq' v.unplaced w.unplaced = eq v w) (a b : Array Value) :
    equalItems eq' (a.map Value.unplaced) (b.map Value.unplaced) = equalItems eq a b := by
  simp only [equalItems, Array.size_map, Array.toList_map, List.zip_map, List.all_map,
    Function.comp_def, Prod.map, h]

lemma Value.equalFields_unplaced {eq eq' : Value → Value → Bool}
    (h : ∀ v w : Value, eq' v.unplaced w.unplaced = eq v w) (a b : Table Value) :
    equalFields eq' (a.map Value.unplaced) (b.map Value.unplaced) = equalFields eq a b := by
  have hany : ∀ (v : Value) (o : Option Value),
      (o.map Value.unplaced).any (eq' v.unplaced) = o.any (eq v) := by
    intro v o
    cases o with
    | none => rfl
    | some w => exact h v w
  simp only [equalFields, Table.size_map, Table.find?_map]
  simp only [Table.map, List.all_map, Function.comp_def, hany]

lemma Value.equalWithin_unplaced (depth : Nat) (v w : Value) :
    equalWithin st.unplaced depth v.unplaced w.unplaced = equalWithin st depth v w := by
  induction depth generalizing v w with
  | zero => cases v <;> cases w <;> rfl
  | succ depth ih =>
      cases v <;> cases w <;>
        simp only [Value.unplaced, equalWithin, Store.list_unplaced, Store.record_unplaced,
          equalItems_unplaced ih, equalFields_unplaced ih, Class.unplaced, Group.unplaced,
          MatchFunction.unplaced, Lambda.unplaced]

@[simp] lemma Value.equal_unplaced (v w : Value) :
    v.unplaced.equal st.unplaced w.unplaced = v.equal st w := by
  rw [Value.equal, Value.equal, Store.containers_unplaced, equalWithin_unplaced]

end

/-! ### Operators and access -/

section

variable (span : Span)

lemma Value.expectNumber_unplaced (v : Value) :
    v.unplaced.expectNumber (some default) = unplacedExcept id (v.expectNumber (some span)) := by
  cases v <;> rfl

lemma Value.expectString_unplaced (v : Value) :
    v.unplaced.expectString (some default) = unplacedExcept id (v.expectString (some span)) := by
  cases v <;> rfl

lemma Value.expectBoolean_unplaced (v : Value) :
    v.unplaced.expectBoolean (some default) = unplacedExcept id (v.expectBoolean (some span)) := by
  cases v <;> rfl

lemma Value.expectRecord_unplaced (v : Value) :
    v.unplaced.expectRecord (some default) = unplacedExcept id (v.expectRecord (some span)) := by
  cases v <;> rfl

lemma Value.expectList_unplaced (v : Value) :
    v.unplaced.expectList (some default) = unplacedExcept id (v.expectList (some span)) := by
  cases v <;> rfl

lemma Operator.numeric_unplaced (l r : Value) (f : Float → Float → Float) :
    numeric l.unplaced r.unplaced (some default) f
      = unplacedExcept Value.unplaced (numeric l r (some span) f) := by
  rw [numeric, l.expectNumber_unplaced span, r.expectNumber_unplaced span]
  exact unplacedExcept_bind fun _ => unplacedExcept_bind fun _ => rfl

lemma Operator.ordered_unplaced (l r : Value) (wanted : Ordering → Bool) :
    ordered l.unplaced r.unplaced (some default) wanted
      = unplacedExcept Value.unplaced (ordered l r (some span) wanted) := by
  have hnumbers : (do
      let a ← l.unplaced.expectNumber (some default)
      let b ← r.unplaced.expectNumber (some default)
      .ok (.boolean ((compareNumbers a b).any wanted)) : Except Error Value)
      = unplacedExcept Value.unplaced (do
        let a ← l.expectNumber (some span)
        let b ← r.expectNumber (some span)
        .ok (.boolean ((compareNumbers a b).any wanted))) := by
    rw [l.expectNumber_unplaced span, r.expectNumber_unplaced span]
    exact unplacedExcept_bind fun _ => unplacedExcept_bind fun _ => rfl
  cases l with
  | string s =>
      cases r with
      | string t => rfl
      | _ => exact hnumbers
  | _ => exact hnumbers

lemma Operator.add_unplaced (l r : Value) :
    add l.unplaced r.unplaced (some default)
      = unplacedExcept Value.unplaced (add l r (some span)) := by
  cases l with
  | string s =>
      show (r.unplaced.expectString (some default) >>= fun t => .ok (Value.string (s ++ t))) = _
      rw [r.expectString_unplaced span]
      exact unplacedExcept_bind fun _ => rfl
  | _ => exact numeric_unplaced span _ r _

lemma Operator.binary_unplaced (st : Store) (op : BinaryOp) (l r : Value) :
    binary st.unplaced op l.unplaced r.unplaced default
      = unplacedExcept Value.unplaced (binary st op l r span) := by
  cases op with
  | add => exact add_unplaced span l r
  | sub | mul | div | pow => exact numeric_unplaced span l r _
  | eq | ne =>
      simp only [binary, Value.equal_unplaced]
      rfl
  | lt | le | gt | ge => exact ordered_unplaced span l r _

lemma Operator.factorial_unplaced (x : Float) :
    factorial x (some default) = unplacedExcept id (factorial x (some span)) := by
  simp only [factorial]
  split <;> rfl

lemma Operator.unary_unplaced (op : UnaryOp) (v : Value) :
    unary op v.unplaced default = unplacedExcept Value.unplaced (unary op v span) := by
  cases op with
  | neg =>
      simp only [unary]
      rw [v.expectNumber_unplaced span]
      exact unplacedExcept_map fun _ => rfl
  | not =>
      simp only [unary]
      rw [v.expectBoolean_unplaced span]
      exact unplacedExcept_map fun _ => rfl
  | factorial =>
      simp only [unary]
      rw [v.expectNumber_unplaced span]
      refine unplacedExcept_bind fun x => ?_
      rw [id_eq, factorial_unplaced span]
      exact unplacedExcept_bind fun _ => rfl

lemma readField_unplaced (st : Store) (v : Value) (name : String) :
    readField st.unplaced v.unplaced name default
      = unplacedExcept Value.unplaced (readField st v name span) := by
  cases v with
  | record r | object c r =>
      simp only [Value.unplaced, readField, Store.record_unplaced, Table.find?_map]
      cases (st.record r).find? name <;> rfl
  | ofGroup g =>
      simp only [Value.unplaced, readField, Group.unplaced, Table.find?_map]
      cases g.variants.find? name <;> rfl
  | _ => rfl

lemma readIndex_unplaced (st : Store) (target position : Value) :
    readIndex st.unplaced target.unplaced position.unplaced default
      = unplacedExcept Value.unplaced (readIndex st target position span) := by
  rw [readIndex, target.expectList_unplaced span, position.expectNumber_unplaced span]
  refine unplacedExcept_bind fun r => unplacedExcept_bind fun x => ?_
  simp only [id_eq, Store.list_unplaced, Array.size_map, Array.getElem?_map]
  cases 0 ≤ x && Operator.isWhole x with
  | false => rfl
  | true => cases (st.list r)[x.toUInt64.toNat]? <;> rfl

lemma Native.pushField_unplaced (fields : Table Value) (name : String) :
    pushField (fields.map Value.unplaced) name (some default)
      = unplacedExcept Value.unplaced (pushField fields name (some span)) := by
  rw [pushField, pushField, Table.find?_map]
  cases fields.find? name <;> rfl

end

/-! ### Types -/

section

variable (types : Registry)

lemma Registry.resolve_unplaced (path : TypePath) :
    types.unplaced.resolve path.unplaced = unplacedExcept TypeEntry.unplaced (types.resolve path) := by
  obtain ⟨segments, span⟩ := path
  rcases segments with _ | ⟨name, _ | ⟨variant, _ | ⟨third, rest⟩⟩⟩
  · rfl
  · simp only [Registry.resolve, TypePath.unplaced, Registry.unplaced, Table.find?_map]
    cases types.find? name <;> rfl
  · simp only [Registry.resolve, Registry.resolveVariant, TypePath.unplaced, Registry.unplaced,
      Table.find?_map]
    rcases types.find? name with _ | ⟨c⟩ | ⟨g⟩
    · rfl
    · rfl
    · simp only [Option.map_some, TypeEntry.unplaced, Group.unplaced, Table.find?_map]
      cases g.variants.find? variant <;> rfl
  · rfl

lemma Registry.resolveClass_unplaced (path : TypePath) :
    types.unplaced.resolveClass path.unplaced
      = unplacedExcept Class.unplaced (types.resolveClass path) := by
  rw [Registry.resolveClass, Registry.resolveClass, Registry.resolve_unplaced]
  rcases types.resolve path with e | ⟨c⟩ | ⟨g⟩ <;> rfl

lemma Primitive.accepts_unplaced (p : Primitive) (v : Value) :
    p.accepts v.unplaced = p.accepts v := by
  cases p <;> cases v <;> rfl

lemma TypeEntry.covers_unplaced (c : Class) (entry : TypeEntry) :
    entry.unplaced.covers c.unplaced = entry.covers c := by
  cases entry with
  | ofClass d => rfl
  | ofGroup g =>
      simp only [TypeEntry.unplaced, TypeEntry.covers, Group.contains, Group.unplaced, Table.map,
        List.any_map, Function.comp_def, Class.unplaced]

variable (st : Store)

mutual

theorem Ty.accepts_unplaced (type : Ty) (v : Value) :
    type.unplaced.accepts types.unplaced st.unplaced v.unplaced
      = unplacedExcept id (type.accepts types st v) := by
  cases type with
  | primitive p =>
      simp only [Ty.unplaced, Ty.accepts, Primitive.accepts_unplaced, unplacedExcept_ok, id]
  | reference path =>
      cases v with
      | object c r =>
          simp only [Ty.unplaced, Value.unplaced, Ty.accepts, Registry.resolve_unplaced]
          exact unplacedExcept_map fun entry => entry.covers_unplaced c
      | _ => simp only [Ty.unplaced, Value.unplaced, Ty.accepts, unplacedExcept_ok, id]
  | record fields =>
      cases v with
      | record r =>
          have hlength : (Ty.unplacedFields fields).length = fields.length := by
            rw [Ty.unplacedFields_eq, List.length_map]
          simp only [Ty.unplaced, Value.unplaced, Ty.accepts, Store.record_unplaced, Table.size_map,
            hlength, Ty.acceptsFields_unplaced fields]
          split <;> rfl
      | _ => simp only [Ty.unplaced, Value.unplaced, Ty.accepts, unplacedExcept_ok, id]
  | list item =>
      cases v with
      | list r =>
          simp only [Ty.unplaced, Value.unplaced, Ty.accepts, Store.list_unplaced, Array.toList_map]
          exact unplacedExcept_allM (Ty.accepts_unplaced item) _
      | _ => simp only [Ty.unplaced, Value.unplaced, Ty.accepts, unplacedExcept_ok, id]
  | union alternatives =>
      simp only [Ty.unplaced, Ty.accepts]
      exact Ty.acceptsAny_unplaced alternatives v

theorem Ty.acceptsFields_unplaced (fields : List (String × Ty)) (found : Table Value) :
    Ty.acceptsFields types.unplaced st.unplaced (Ty.unplacedFields fields) (found.map Value.unplaced)
      = unplacedExcept id (Ty.acceptsFields types st fields found) := by
  cases fields with
  | nil => simp only [Ty.unplacedFields, Ty.acceptsFields, unplacedExcept_ok, id]
  | cons field rest =>
      obtain ⟨name, type⟩ := field
      simp only [Ty.unplacedFields, Ty.acceptsFields, Table.find?_map]
      cases found.find? name with
      | none => rfl
      | some v =>
          simp only [Option.map_some, Ty.accepts_unplaced type v]
          refine unplacedExcept_bind fun b => ?_
          cases b with
          | true => exact Ty.acceptsFields_unplaced rest found
          | false => rfl

theorem Ty.acceptsAny_unplaced (alternatives : List Ty) (v : Value) :
    Ty.acceptsAny types.unplaced st.unplaced (Ty.unplacedAll alternatives) v.unplaced
      = unplacedExcept id (Ty.acceptsAny types st alternatives v) := by
  cases alternatives with
  | nil => simp only [Ty.unplacedAll, Ty.acceptsAny, unplacedExcept_ok, id]
  | cons type rest =>
      simp only [Ty.unplacedAll, Ty.acceptsAny, Ty.accepts_unplaced type v]
      refine unplacedExcept_bind fun b => ?_
      cases b with
      | true => rfl
      | false => exact Ty.acceptsAny_unplaced rest v

end

lemma Shape.checkTypes_unplaced (found : Table Value) (owner : String) (span : Span)
    (fields : List (String × Ty)) :
    Shape.checkTypes types.unplaced st.unplaced (found.map Value.unplaced) owner (some default)
        (Ty.unplacedFields fields)
      = unplacedExcept id (Shape.checkTypes types st found owner (some span) fields) := by
  induction fields with
  | nil => rfl
  | cons field rest ih =>
      obtain ⟨name, type⟩ := field
      simp only [Ty.unplacedFields, Shape.checkTypes, Table.find?_map]
      cases found.find? name with
      | none => exact ih
      | some v =>
          simp only [Option.map_some, Ty.accepts_unplaced]
          refine unplacedExcept_bind fun b => ?_
          cases b with
          | true => exact ih
          | false =>
              simp only [id_eq, Ty.text_unplaced, Value.typeName_unplaced]
              rfl

lemma Shape.check_unplaced (shape : Shape) (found : Table Value) (owner : String) (span : Span) :
    shape.unplaced.check types.unplaced st.unplaced (found.map Value.unplaced) owner (some default)
      = unplacedExcept id (shape.check types st found owner (some span)) := by
  have hentries : shape.unplaced.entries = Ty.unplacedFields shape.entries :=
    (Ty.unplacedFields_eq _).symm
  rw [Shape.check, Shape.check, hentries, Shape.checkTypes_unplaced types st found owner span]
  simp only [Shape.unplaced, Table.keys_map, Table.contains_map]
  split
  · rfl
  · split <;> rfl

lemma Class.instantiate_unplaced (c : Class) (r : RecordRef) (span : Span) :
    c.unplaced.instantiate types.unplaced st.unplaced r (some default)
      = unplacedExcept Value.unplaced (c.instantiate types st r (some span)) := by
  rw [Class.instantiate, Store.record_unplaced, Class.displayName_unplaced]
  show (c.shape.unplaced.check _ _ _ _ _ >>= fun _ => _) = _
  rw [Shape.check_unplaced types st c.shape _ _ span]
  exact unplacedExcept_bind fun _ => rfl

end

/-! ### Patterns -/

namespace Pattern

lemma malformed_unplaced (e : Expr) : malformed e.unplaced = (malformed e).unplaced := by
  rw [malformed, malformed, Expr.kind_unplaced, Expr.span_unplaced]
  rfl

mutual

theorem validateAfter_unplaced (seen : List String) (p : Expr) :
    validateAfter seen p.unplaced = unplacedExcept id (validateAfter seen p) := by
  cases p with
  | identifier name span =>
      simp only [Expr.unplaced, validateAfter]
      split
      · rfl
      · split <;> rfl
  | literal l span => rfl
  | record fields span =>
      simp only [Expr.unplaced, validateAfter]
      exact validateFields_unplaced seen fields
  | callNamed callee fields span =>
      cases callee with
      | typeRef path =>
          simp only [Expr.unplaced, validateAfter]
          exact validateFields_unplaced seen fields
      | _ => exact congrArg Except.error (malformed_unplaced (.callNamed _ fields span))
  | _ => exact congrArg Except.error (malformed_unplaced _)

theorem validateFields_unplaced (seen : List String) (fields : List (String × Expr)) :
    validateFields seen (Expr.unplacedFields fields)
      = unplacedExcept id (validateFields seen fields) := by
  cases fields with
  | nil => rfl
  | cons field rest =>
      obtain ⟨name, p⟩ := field
      simp only [Expr.unplacedFields, validateFields, validateAfter_unplaced seen p]
      cases validateAfter seen p with
      | error e => rfl
      | ok seen' => exact validateFields_unplaced seen' rest

end

lemma validate_unplaced (p : Expr) : validate p.unplaced = unplacedExcept id (validate p) := by
  rw [validate, validate, validateAfter_unplaced]
  exact unplacedExcept_map fun _ => rfl

lemma literalMatches_unplaced (l : Literal) (v : Value) :
    literalMatches l v.unplaced = literalMatches l v := by
  cases l <;> cases v <;> rfl

/-- The bindings of a match without places. -/
def unplacedBindings (bindings : Bindings) : Bindings :=
  bindings.map fun b => (b.1, b.2.unplaced)

section

variable (types : Registry) (st : Store)

mutual

theorem bindings?_unplaced (p : Expr) (v : Value) :
    bindings? types.unplaced st.unplaced p.unplaced v.unplaced
      = unplacedExcept (Option.map unplacedBindings) (bindings? types st p v) := by
  cases p with
  | identifier name span =>
      simp only [Expr.unplaced, bindings?]
      split <;> rfl
  | literal l span =>
      simp only [Expr.unplaced, bindings?, literalMatches_unplaced]
      split <;> rfl
  | record fields span =>
      cases v with
      | record r =>
          simp only [Expr.unplaced, Value.unplaced, bindings?, Store.record_unplaced]
          exact fieldBindings?_unplaced fields _
      | _ => rfl
  | callNamed callee fields span =>
      cases callee with
      | typeRef path =>
          simp only [Expr.unplaced, bindings?, Registry.resolveClass_unplaced]
          cases types.resolveClass path with
          | error e => rfl
          | ok c =>
              cases v with
              | object d r =>
                  simp only [unplacedExcept_ok, Value.unplaced, Class.unplaced, Store.record_unplaced]
                  split
                  · exact fieldBindings?_unplaced fields _
                  · rfl
              | _ => rfl
      | _ => exact congrArg Except.error (malformed_unplaced (.callNamed _ fields span))
  | _ => exact congrArg Except.error (malformed_unplaced _)

theorem fieldBindings?_unplaced (fields : List (String × Expr)) (found : Table Value) :
    fieldBindings? types.unplaced st.unplaced (Expr.unplacedFields fields) (found.map Value.unplaced)
      = unplacedExcept (Option.map unplacedBindings) (fieldBindings? types st fields found) := by
  cases fields with
  | nil => rfl
  | cons field rest =>
      obtain ⟨name, p⟩ := field
      simp only [Expr.unplacedFields, fieldBindings?, Table.find?_map]
      cases found.find? name with
      | none => rfl
      | some v =>
          simp only [Option.map_some, bindings?_unplaced p v]
          rcases bindings? types st p v with e | _ | bs
          · rfl
          · rfl
          · simp only [unplacedExcept_ok, Option.map_some, fieldBindings?_unplaced rest found]
            refine unplacedExcept_map fun o => ?_
            cases o with
            | none => rfl
            | some cs => simp [unplacedBindings]

end

lemma match?_unplaced (p : Expr) (v : Value) :
    match? types.unplaced st.unplaced p.unplaced v.unplaced
      = unplacedExcept (Option.map unplacedBindings) (match? types st p v) := by
  rw [match?, match?, validate_unplaced, bindings?_unplaced]
  cases validate p with
  | error e => rfl
  | ok u => rfl

/-- The alternative chosen is the same. -/
lemma first?_unplaced {α β : Type} (f : α → β) (v : Value) (alternatives : List (Expr × α)) :
    first? types.unplaced st.unplaced v.unplaced
        (alternatives.map fun a => (a.1.unplaced, f a.2))
      = unplacedExcept (Option.map fun a => (f a.1, unplacedBindings a.2))
        (first? types st v alternatives) := by
  induction alternatives with
  | nil => rfl
  | cons alternative rest ih =>
      obtain ⟨p, a⟩ := alternative
      simp only [List.map_cons, first?, match?_unplaced]
      rcases match? types st p v with e | _ | bs
      · rfl
      · exact ih
      · rfl

end

end Pattern

end RecordLang
