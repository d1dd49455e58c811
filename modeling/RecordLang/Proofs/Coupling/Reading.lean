import RecordLang.Call
import RecordLang.Proofs.Matching
import RecordLang.Proofs.Resemblance

/-!
What reading the store depends on.

Texts, comparisons, access to fields and items, conformance and matching look at lists and records, and
at nothing else: what names stand for is the business of evaluation. So they come out alike in any two
stores with the same lists and records.

* `Store.SameContainers`: two stores with the same lists and records.
* `Store.SameContainers.text_eq`, `Store.SameContainers.binary_eq`, `Store.SameContainers.check_eq`,
  `Store.SameContainers.first?_eq` and others: what is read is the same in both.
-/

namespace RecordLang

/-- The stores have the same lists and records. -/
structure Store.SameContainers (st st' : Store) : Prop where
  lists : st'.lists = st.lists
  records : st'.records = st.records

namespace Store.SameContainers

variable {st st' : Store}

lemma list_eq (h : st.SameContainers st') (r : ListRef) : st'.list r = st.list r := by
  rw [Store.list, Store.list, h.lists]

lemma record_eq (h : st.SameContainers st') (r : RecordRef) : st'.record r = st.record r := by
  rw [Store.record, Store.record, h.records]

lemma containers_eq (h : st.SameContainers st') : st'.containers = st.containers := by
  rw [Store.containers, Store.containers, h.lists, h.records]

/-! ### Texts and comparisons -/

lemma textWithin_eq (h : st.SameContainers st') (depth : Nat) :
    Value.textWithin st' depth = Value.textWithin st depth := by
  induction depth with
  | zero =>
      funext v
      cases v <;> rfl
  | succ depth ih =>
      funext v
      cases v with
      | list r => rw [Value.textWithin, Value.textWithin, ih, h.list_eq]
      | record r | object c r => rw [Value.textWithin, Value.textWithin, ih, h.record_eq]
      | _ => rfl

lemma text_eq (h : st.SameContainers st') (v : Value) : v.text st' = v.text st := by
  rw [Value.text, Value.text, h.containers_eq, h.textWithin_eq]

lemma equalWithin_eq (h : st.SameContainers st') (depth : Nat) :
    Value.equalWithin st' depth = Value.equalWithin st depth := by
  induction depth with
  | zero =>
      funext v w
      cases v <;> cases w <;> rfl
  | succ depth ih =>
      funext v w
      cases v <;> cases w <;>
        simp only [Value.equalWithin, ih, h.list_eq, h.record_eq]

lemma equal_eq (h : st.SameContainers st') (v w : Value) : v.equal st' w = v.equal st w := by
  rw [Value.equal, Value.equal, h.containers_eq, h.equalWithin_eq]

lemma binary_eq (h : st.SameContainers st') (op : BinaryOp) (l r : Value) (span : Span) :
    Operator.binary st' op l r span = Operator.binary st op l r span := by
  cases op with
  | eq | ne => simp only [Operator.binary, h.equal_eq]
  | _ => rfl

/-! ### Access -/

lemma readField_eq (h : st.SameContainers st') (v : Value) (name : String) (span : Span) :
    readField st' v name span = readField st v name span := by
  cases v with
  | record r | object c r => simp only [readField, h.record_eq]
  | _ => rfl

lemma readIndex_eq (h : st.SameContainers st') (target position : Value) (span : Span) :
    readIndex st' target position span = readIndex st target position span := by
  simp only [readIndex, h.list_eq]

/-! ### Conformance -/

section

variable {types : Registry}

lemma reordered (h : st.SameContainers st') : st.Reordered st' :=
  ⟨h.list_eq, fun r => .of_eq (congrArg Table.entries (h.record_eq r))⟩

lemma accepts_eq (h : st.SameContainers st') (type : Ty) (v : Value) :
    type.accepts types st' v = type.accepts types st v :=
  (h.reordered.isResemblance.accepts_eq type rfl).symm

lemma checkTypes_eq (h : st.SameContainers st') (found : Table Value) (owner : String)
    (span : Option Span) (fields : List (String × Ty)) :
    Shape.checkTypes types st' found owner span fields
      = Shape.checkTypes types st found owner span fields := by
  induction fields with
  | nil => rfl
  | cons field rest ih =>
      obtain ⟨name, type⟩ := field
      simp only [Shape.checkTypes, h.accepts_eq, ih]

lemma check_eq (h : st.SameContainers st') (shape : Shape) (found : Table Value) (owner : String)
    (span : Option Span) :
    shape.check types st' found owner span = shape.check types st found owner span := by
  simp only [Shape.check, h.checkTypes_eq]

lemma instantiate_eq (h : st.SameContainers st') (c : Class) (r : RecordRef) (span : Option Span) :
    c.instantiate types st' r span = c.instantiate types st r span := by
  rw [Class.instantiate, Class.instantiate, h.record_eq, h.check_eq]

/-! ### Matching -/

lemma first?_eq (h : st.SameContainers st') {α : Type} (v : Value)
    (alternatives : List (Expr × α)) :
    Pattern.first? types st' v alternatives = Pattern.first? types st v alternatives :=
  (h.reordered.isResemblance.first?_sameAnswer alternatives rfl).eq_of_identity.symm

end

end Store.SameContainers

end RecordLang
