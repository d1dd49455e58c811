import Mathlib.Tactic
import RecordLang.Conformance
import RecordLang.Pattern

/-!
Later definitions keep earlier verdicts.

A definition under a new name makes paths stand for something that stood for nothing before. They are
resolved in the middle of loops over alternatives, items, fields and patterns, and what comes out decides
how a loop goes on. But a loop that meets a path with an unknown name stops there and says so. Whatever
else it says, it has met none, and goes the same way when more names are known.

* `SaysUnknown`: the outcome is that a name is unknown.
* `Upheld`: an outcome says so, or stays as it is.
* `Registry.ExtendedBy`: a registry in which more names are known.
* `Registry.ExtendedBy.accepts_upheld`, `Registry.ExtendedBy.check_upheld`,
  `Registry.ExtendedBy.first?_upheld`: what is upheld in it.
* `later_definitions_keep_verdicts`: the main statement.
-/

namespace RecordLang

/-! ### Outcomes that are upheld -/

section

variable {α β : Type}

/-- The outcome is that a name stands for no type. -/
def SaysUnknown (x : Except Error α) : Prop :=
  ∃ name span, x = .error (.fault (.unknownType name) span)

/-- The first outcome is that a name is unknown, or the second is the same. -/
def Upheld (x y : Except Error α) : Prop :=
  SaysUnknown x ∨ y = x

lemma upheld_refl (x : Except Error α) : Upheld x x :=
  Or.inr rfl

/-- Two steps in a row are upheld if each of them is. -/
lemma Upheld.bind {x y : Except Error α} {f g : α → Except Error β} (h : Upheld x y)
    (hnext : ∀ a, Upheld (f a) (g a)) : Upheld (x >>= f) (y >>= g) := by
  obtain ⟨name, span, rfl⟩ | rfl := h
  · exact Or.inl ⟨name, span, rfl⟩
  · cases y with
    | error e => exact upheld_refl _
    | ok a => exact hnext a

lemma Upheld.map {x y : Except Error α} (h : Upheld x y) (f : α → β) :
    Upheld (x.map f) (y.map f) := by
  obtain ⟨name, span, rfl⟩ | rfl := h
  · exact Or.inl ⟨name, span, rfl⟩
  · exact upheld_refl _

/-- A loop over all members is upheld if the answer for each of them is. -/
lemma upheld_allM {p q : α → Except Error Bool} (h : ∀ a, Upheld (p a) (q a)) (as : List α) :
    Upheld (as.allM p) (as.allM q) := by
  induction as with
  | nil => exact upheld_refl _
  | cons a rest ih =>
      refine (h a).bind fun b => ?_
      cases b with
      | false => exact upheld_refl _
      | true => exact ih

end

/-! ### Paths -/

/-- Every name that is known stands for the same in the second registry. -/
def Registry.ExtendedBy (types types' : Registry) : Prop :=
  ∀ name entry, types.find? name = some entry → types'.find? name = some entry

/-- A new name can be registered. -/
lemma Registry.extendedBy_insert {types : Registry} {name : String} (h : types.find? name = none)
    (entry : TypeEntry) : types.ExtendedBy (types.insert name entry) := by
  intro x other hx
  have hne : x ≠ name := by
    rintro rfl
    cases h.symm.trans hx
  rw [Table.find?_insert, if_neg hne, hx]

namespace Registry.ExtendedBy

variable {types types' : Registry} {st : Store}

lemma resolveVariant_upheld (h : types.ExtendedBy types') (group variant : String)
    (span : Option Span) :
    Upheld (types.resolveVariant group variant span) (types'.resolveVariant group variant span) := by
  rw [resolveVariant, resolveVariant]
  cases hgroup : types.find? group with
  | none => exact Or.inl ⟨group, span, rfl⟩
  | some entry =>
      rw [h group entry hgroup]
      exact upheld_refl _

lemma resolve_upheld (h : types.ExtendedBy types') (path : TypePath) :
    Upheld (types.resolve path) (types'.resolve path) := by
  rw [resolve, resolve]
  split
  · next name hpath =>
      cases hname : types.find? name with
      | none => exact Or.inl ⟨name, some path.span, rfl⟩
      | some entry =>
          rw [h name entry hname]
          exact upheld_refl _
  · next group variant hpath =>
      obtain ⟨name, span, hunknown⟩ | hsame := h.resolveVariant_upheld group variant (some path.span)
      · rw [hunknown]
        exact Or.inl ⟨name, span, rfl⟩
      · rw [hsame]
        exact upheld_refl _
  · exact upheld_refl _

lemma resolveClass_upheld (h : types.ExtendedBy types') (path : TypePath) :
    Upheld (types.resolveClass path) (types'.resolveClass path) := by
  rw [resolveClass, resolveClass]
  obtain ⟨name, span, hunknown⟩ | hsame := h.resolve_upheld path
  · rw [hunknown]
    exact Or.inl ⟨name, span, rfl⟩
  · rw [hsame]
    exact upheld_refl _

/-! ### Conformance -/

mutual

/-- **Conformance is upheld.** -/
theorem accepts_upheld (h : types.ExtendedBy types') (type : Ty) (v : Value) :
    Upheld (type.accepts types st v) (type.accepts types' st v) := by
  cases type with
  | primitive p => exact upheld_refl _
  | reference path =>
      cases v with
      | object c r => exact (h.resolve_upheld path).map _
      | _ => exact upheld_refl _
  | record fields =>
      cases v with
      | record r =>
          rw [Ty.accepts, Ty.accepts]
          split_ifs
          · exact h.acceptsFields_upheld fields _
          · exact upheld_refl _
      | _ => exact upheld_refl _
  | list item =>
      cases v with
      | list r => exact upheld_allM (h.accepts_upheld item) _
      | _ => exact upheld_refl _
  | union alternatives => exact h.acceptsAny_upheld alternatives v

theorem acceptsFields_upheld (h : types.ExtendedBy types') (fields : List (String × Ty))
    (found : Table Value) :
    Upheld (Ty.acceptsFields types st fields found) (Ty.acceptsFields types' st fields found) := by
  cases fields with
  | nil => exact upheld_refl _
  | cons field rest =>
      obtain ⟨name, type⟩ := field
      rw [Ty.acceptsFields, Ty.acceptsFields]
      cases found.find? name with
      | none => exact upheld_refl _
      | some v =>
          refine (h.accepts_upheld type v).bind fun b => ?_
          cases b with
          | false => exact upheld_refl _
          | true => exact h.acceptsFields_upheld rest found

theorem acceptsAny_upheld (h : types.ExtendedBy types') (alternatives : List Ty) (v : Value) :
    Upheld (Ty.acceptsAny types st alternatives v) (Ty.acceptsAny types' st alternatives v) := by
  cases alternatives with
  | nil => exact upheld_refl _
  | cons type rest =>
      refine (h.accepts_upheld type v).bind fun b => ?_
      cases b with
      | false => exact h.acceptsAny_upheld rest v
      | true => exact upheld_refl _

end

/-! ### Construction -/

lemma checkTypes_upheld (h : types.ExtendedBy types') (found : Table Value) (owner : String)
    (span : Option Span) (fields : List (String × Ty)) :
    Upheld (Shape.checkTypes types st found owner span fields)
      (Shape.checkTypes types' st found owner span fields) := by
  induction fields with
  | nil => exact upheld_refl _
  | cons field rest ih =>
      obtain ⟨name, type⟩ := field
      rw [Shape.checkTypes, Shape.checkTypes]
      cases found.find? name with
      | none => exact ih
      | some v =>
          refine (h.accepts_upheld type v).bind fun b => ?_
          cases b with
          | false => exact upheld_refl _
          | true => exact ih

lemma check_upheld (h : types.ExtendedBy types') (shape : Shape) (found : Table Value)
    (owner : String) (span : Option Span) :
    Upheld (shape.check types st found owner span) (shape.check types' st found owner span) := by
  rw [Shape.check, Shape.check]
  split
  · exact upheld_refl _
  · split
    · exact upheld_refl _
    · exact h.checkTypes_upheld found owner span shape.entries

lemma instantiate_upheld (h : types.ExtendedBy types') (c : Class) (r : RecordRef)
    (span : Option Span) :
    Upheld (c.instantiate types st r span) (c.instantiate types' st r span) :=
  (h.check_upheld c.shape (st.record r) c.displayName span).bind fun _ => upheld_refl _

/-! ### Matching -/

mutual

/-- **Matching is upheld.** -/
theorem bindings?_upheld (h : types.ExtendedBy types') (p : Expr) (v : Value) :
    Upheld (Pattern.bindings? types st p v) (Pattern.bindings? types' st p v) := by
  cases p with
  | record fields span =>
      cases v with
      | record r => exact h.fieldBindings?_upheld fields _
      | _ => exact upheld_refl _
  | callNamed callee fields span =>
      cases callee with
      | typeRef path =>
          rw [Pattern.bindings?, Pattern.bindings?]
          obtain ⟨name, span, hunknown⟩ | hsame := h.resolveClass_upheld path
          · rw [hunknown]
            exact Or.inl ⟨name, span, rfl⟩
          rw [hsame]
          cases types.resolveClass path with
          | error e => exact upheld_refl _
          | ok c =>
              cases v with
              | object d r =>
                  dsimp only
                  split_ifs
                  · exact h.fieldBindings?_upheld fields _
                  · exact upheld_refl _
              | _ => exact upheld_refl _
      | _ => exact upheld_refl _
  | _ => exact upheld_refl _

theorem fieldBindings?_upheld (h : types.ExtendedBy types') (fields : List (String × Expr))
    (found : Table Value) :
    Upheld (Pattern.fieldBindings? types st fields found)
      (Pattern.fieldBindings? types' st fields found) := by
  cases fields with
  | nil => exact upheld_refl _
  | cons field rest =>
      obtain ⟨name, p⟩ := field
      rw [Pattern.fieldBindings?, Pattern.fieldBindings?]
      cases found.find? name with
      | none => exact upheld_refl _
      | some v =>
          dsimp only
          obtain ⟨name, span, hunknown⟩ | hsame := h.bindings?_upheld p v
          · rw [hunknown]
            exact Or.inl ⟨name, span, rfl⟩
          rw [hsame]
          rcases Pattern.bindings? types st p v with e | _ | bs
          · exact upheld_refl _
          · exact upheld_refl _
          · exact (h.fieldBindings?_upheld rest found).map _

end

lemma match?_upheld (h : types.ExtendedBy types') (p : Expr) (v : Value) :
    Upheld (Pattern.match? types st p v) (Pattern.match? types' st p v) := by
  rw [Pattern.match?, Pattern.match?]
  cases Pattern.validate p with
  | error e => exact upheld_refl _
  | ok u => exact h.bindings?_upheld p v

/-- The choice among alternatives is upheld, since those passed over are passed over again. -/
lemma first?_upheld (h : types.ExtendedBy types') {α : Type} (v : Value)
    (alternatives : List (Expr × α)) :
    Upheld (Pattern.first? types st v alternatives) (Pattern.first? types' st v alternatives) := by
  induction alternatives with
  | nil => exact upheld_refl _
  | cons alternative rest ih =>
      obtain ⟨p, a⟩ := alternative
      rw [Pattern.first?, Pattern.first?]
      obtain ⟨name, span, hunknown⟩ | hsame := h.match?_upheld p v
      · rw [hunknown]
        exact Or.inl ⟨name, span, rfl⟩
      rw [hsame]
      rcases Pattern.match? types st p v with e | _ | bs
      · exact upheld_refl _
      · exact ih
      · exact upheld_refl _

end Registry.ExtendedBy

/-! ### The main statement -/

/-- **Later definitions keep earlier verdicts.** Let every name of one registry stand for the same in a
second one, in which more names may be known. Whether a value conforms to a type, what the check of a
record against a shape says, what a class makes of a record and which alternative is chosen for a value:
all this comes out in the second registry as it does in the first, errors included, unless it came out
that a name is unknown. -/
theorem later_definitions_keep_verdicts (types types' : Registry) (h : types.ExtendedBy types')
    (st : Store) :
    (∀ (type : Ty) v, ¬ SaysUnknown (type.accepts types st v) →
      type.accepts types' st v = type.accepts types st v) ∧
    (∀ (shape : Shape) found owner span, ¬ SaysUnknown (shape.check types st found owner span) →
      shape.check types' st found owner span = shape.check types st found owner span) ∧
    (∀ (c : Class) r span, ¬ SaysUnknown (c.instantiate types st r span) →
      c.instantiate types' st r span = c.instantiate types st r span) ∧
    ∀ {α : Type} (alternatives : List (Expr × α)) v,
      ¬ SaysUnknown (Pattern.first? types st v alternatives) →
      Pattern.first? types' st v alternatives = Pattern.first? types st v alternatives := by
  refine ⟨fun type v => ?_, fun shape found owner span => ?_, fun c r span => ?_,
    fun alternatives v => ?_⟩
  · exact (h.accepts_upheld type v).resolve_left
  · exact (h.check_upheld shape found owner span).resolve_left
  · exact (h.instantiate_upheld c r span).resolve_left
  · exact (h.first?_upheld v alternatives).resolve_left

/-- A class whose field may be a number or a ghost, before ghosts are known and after. An object conforms
to the union of both classes, nil does not go into the field, a number does, and a path through the
class fails: it does not help that ghosts are known. -/
theorem box_checked_before_ghost :
    let path (name : String) : TypePath := ⟨[name], default⟩
    let shape : Shape := .ofList [("x", .union [.primitive .number, .reference (path "Ghost")])]
    let box : Class := ⟨0, "Box", none, shape, default⟩
    let types : Registry := .ofList [("Box", .ofClass box)]
    let types' : Registry := types.insert "Ghost" (.ofClass ⟨1, "Ghost", none, .empty, default⟩)
    let st : Store := { records := #[.ofList [("x", .number 1)], .ofList [("x", .nil)]] }
    let either : Ty := .union [.reference (path "Box"), .reference (path "Ghost")]
    let lid : Expr := .callNamed (.typeRef ⟨["Box", "Lid"], default⟩) [] default
    types.ExtendedBy types' ∧ either.accepts types' st (.object box ⟨0⟩) = .ok true ∧
      shape.check types' st (st.record ⟨1⟩) "Box" none
        = .error (.fault (.typeMismatch "field `Box.x`" "number | Ghost" "nil") none) ∧
      box.instantiate types' st ⟨0⟩ none = .ok (.object box ⟨0⟩) ∧
      Pattern.first? types' st .nil [(lid, ())]
        = .error (.fault (.notAGroup "Box") (some default)) := by
  intro path shape box types types' st either lid
  have hextended : types.ExtendedBy types' := Registry.extendedBy_insert rfl _
  obtain ⟨hconforms, hchecked, hmade, hchosen⟩ :=
    later_definitions_keep_verdicts types types' hextended st
  refine ⟨hextended, (hconforms either (.object box ⟨0⟩) ?_).trans rfl,
    (hchecked shape (st.record ⟨1⟩) "Box" none ?_).trans rfl, (hmade box ⟨0⟩ none ?_).trans rfl,
    (hchosen [(lid, ())] .nil ?_).trans rfl⟩ <;>
  · rintro ⟨name, span, h⟩
    cases h

end RecordLang
