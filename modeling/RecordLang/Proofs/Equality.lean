import Mathlib
import RecordLang.Proofs.Contents
import RecordLang.Value.Equality

/-!
Equality of values, one level at a time.

Two values are equal if they are of one kind and what they carry is: numbers compare as doubles, lists
item by item, records field by field, and a container is equal to itself in any case. So equality at one
depth is a relation on values, `Alike`, over the relations on lists and on records that equality at the
next smaller depth gives. It is symmetric and transitive if these are, and these are if it is.

* `Value.equalItems_iff`, `Value.equalFields_iff`: equality of items and of fields, said symmetrically.
* `Value.Alike`: one level of equality, and `Value.equalWithin_iff_alike`.
* `Value.equalWithin_symm`, `Value.equalWithin_trans`, `Value.equalWithin_self`: the laws of equality.
-/

namespace RecordLang

/-- Only a NaN differs from itself. -/
lemma beq_number_self (x : Float) : (x == x) = !x.isNaN := by
  rw [Bool.eq_iff_iff, Float.beq_self_iff, Float.isNaN_eq_decide_eq_nan]
  simp

/-! ### Relations, member by member -/

section

variable {α β : Type} {R : α → β → Prop}

lemma rel_imp {S : α → β → Prop} {o : Option α} {o' : Option β} (h : Option.Rel R o o')
    (hRS : ∀ {a b}, R a b → S a b) : Option.Rel S o o' := by
  cases h with
  | none => exact .none
  | some h => exact .some (hRS h)

lemma exists_of_rel_some {a : α} {o : Option β} (h : Option.Rel R (some a) o) :
    ∃ b, o = some b ∧ R a b := by
  cases h with
  | some hab => exact ⟨_, rfl, hab⟩

end

section

variable {α : Type} {R : α → α → Prop}

lemma rel_symm {o o' : Option α} (h : Option.Rel R o o') (hR : ∀ {a b}, R a b → R b a) :
    Option.Rel R o' o := by
  cases h with
  | none => exact .none
  | some h => exact .some (hR h)

lemma rel_trans {o o' o'' : Option α} (h : Option.Rel R o o') (h' : Option.Rel R o' o'')
    (hR : ∀ {a b c}, R a b → R b c → R a c) : Option.Rel R o o'' := by
  cases h with
  | none => exact h'
  | some h =>
      cases h' with
      | some h' => exact .some (hR h h')

lemma forall₂_trans {as bs cs : List α} (h : List.Forall₂ R as bs) (h' : List.Forall₂ R bs cs)
    (hR : ∀ {a b c}, R a b → R b c → R a c) : List.Forall₂ R as cs := by
  induction h generalizing cs with
  | nil => exact h'
  | cons h _ ih =>
      cases h' with
      | cons h' hrest => exact .cons (hR h h') (ih hrest)

/-- A transitive relation stays one when everything is related to itself. -/
lemma eq_or_trans {a b c : α} (h : a = b ∨ R a b) (h' : b = c ∨ R b c)
    (hR : R a b → R b c → R a c) : a = c ∨ R a c := by
  obtain rfl | h := h
  · exact h'
  obtain rfl | h' := h'
  · exact Or.inr h
  · exact Or.inr (hR h h')

end

namespace Value

/-! ### Items and fields -/

section

variable {eq : Value → Value → Bool}

/-- Item lists are equal if their items are related place by place. -/
lemma equalItems_iff {a b : Array Value} :
    equalItems eq a b = true ↔ List.Forall₂ (fun v w => eq v w = true) a.toList b.toList := by
  simp [equalItems, List.forall₂_iff_zip]

/-- Field tables are equal if under each name both have nothing, or related values. Counting the fields
is what makes the search in one direction enough. -/
lemma equalFields_iff {a b : Table Value} :
    equalFields eq a b = true ↔
      ∀ x, Option.Rel (fun v w => eq v w = true) (a.find? x) (b.find? x) := by
  have ha : a.keys.Nodup := a.distinct
  have hlength : a.keys.length = a.size := List.length_map _
  simp only [equalFields, Bool.and_eq_true, beq_iff_eq, List.all_eq_true, Option.any_eq_true]
  constructor
  · rintro ⟨hsize, hentries⟩ x
    -- as many names, and all of the first among those of the second: no room for others
    have hkeys : ∀ y, y ∈ b.keys ↔ y ∈ a.keys := by
      refine (Table.same_keys_iff ha).mpr ⟨by omega, fun y hy => ?_⟩
      obtain ⟨v, hv⟩ := Table.mem_keys_iff.mp hy
      obtain ⟨w, hw, -⟩ := hentries (y, v) (Table.mem_of_find?_eq_some hv)
      exact Table.mem_keys_iff.mpr ⟨w, hw⟩
    cases hv : a.find? x with
    | none =>
        cases hw : b.find? x with
        | none => exact .none
        | some w =>
            obtain ⟨v, hv'⟩ := Table.mem_keys_iff.mp ((hkeys x).mp (Table.mem_keys_iff.mpr ⟨w, hw⟩))
            cases hv.symm.trans hv'
    | some v =>
        obtain ⟨w, hw, heq⟩ := hentries (x, v) (Table.mem_of_find?_eq_some hv)
        rw [hw]
        exact .some heq
  · intro h
    refine ⟨Table.size_eq_of_rel h, fun ⟨x, v⟩ hmem => ?_⟩
    have hx := h x
    rw [Table.find?_eq_some_of_mem hmem] at hx
    exact exists_of_rel_some hx

variable {eq' : Value → Value → Bool}

/-- Only items in the same place are compared. -/
lemma equalItems_congr {a b : Array Value}
    (h : ∀ p ∈ a.toList.zip b.toList, eq p.1 p.2 = eq' p.1 p.2) :
    equalItems eq a b = equalItems eq' a b := by
  rw [Bool.eq_iff_iff, equalItems_iff, equalItems_iff, List.forall₂_iff_zip, List.forall₂_iff_zip]
  refine and_congr_right fun _ => ⟨fun hall v w hmem => ?_, fun hall v w hmem => ?_⟩
  · exact (h (v, w) hmem).symm.trans (hall hmem)
  · exact (h (v, w) hmem).trans (hall hmem)

/-- Only fields with the same name are compared. -/
lemma equalFields_congr {a b : Table Value}
    (h : ∀ x v w, a.find? x = some v → b.find? x = some w → eq v w = eq' v w) :
    equalFields eq a b = equalFields eq' a b := by
  rw [Bool.eq_iff_iff, equalFields_iff, equalFields_iff]
  refine forall_congr' fun x => ?_
  cases hv : a.find? x with
  | none => cases b.find? x <;> simp
  | some v =>
      cases hw : b.find? x with
      | none => simp
      | some w => simp [h x v w hv hw]

end

/-! ### One level -/

/-- One level of equality, given when lists and when records are equal. -/
inductive Alike (lists : ListRef → ListRef → Prop) (records : RecordRef → RecordRef → Prop) :
    Value → Value → Prop where
  | number {x y : Float} : (x == y) = true → Alike lists records (.number x) (.number y)
  | string (s : String) : Alike lists records (.string s) (.string s)
  | boolean (b : Bool) : Alike lists records (.boolean b) (.boolean b)
  | nil : Alike lists records .nil .nil
  | list {a b : ListRef} : lists a b → Alike lists records (.list a) (.list b)
  | record {a b : RecordRef} : records a b → Alike lists records (.record a) (.record b)
  | object {c d : Class} {a b : RecordRef} : c.id = d.id → records a b →
      Alike lists records (.object c a) (.object d b)
  | ofClass {c d : Class} : c.id = d.id → Alike lists records (.ofClass c) (.ofClass d)
  | ofGroup {g h : Group} : g.id = h.id → Alike lists records (.ofGroup g) (.ofGroup h)
  | function {f g : MatchFunction} : f.id = g.id → Alike lists records (.function f) (.function g)
  | lambda {f g : Lambda} : f.id = g.id → Alike lists records (.lambda f) (.lambda g)
  | native (f : Native) : Alike lists records (.native f) (.native f)

namespace Alike

variable {lists : ListRef → ListRef → Prop} {records : RecordRef → RecordRef → Prop} {u v w : Value}

lemma symm (hlists : ∀ {a b}, lists a b → lists b a) (hrecords : ∀ {a b}, records a b → records b a)
    (h : Alike lists records v w) : Alike lists records w v := by
  cases h with
  | number h => exact .number (BEq.symm h)
  | string s => exact .string s
  | boolean b => exact .boolean b
  | nil => exact .nil
  | list h => exact .list (hlists h)
  | record h => exact .record (hrecords h)
  | object hid h => exact .object hid.symm (hrecords h)
  | ofClass hid => exact .ofClass hid.symm
  | ofGroup hid => exact .ofGroup hid.symm
  | function hid => exact .function hid.symm
  | lambda hid => exact .lambda hid.symm
  | native f => exact .native f

lemma trans (hlists : ∀ {a b c}, lists a b → lists b c → lists a c)
    (hrecords : ∀ {a b c}, records a b → records b c → records a c)
    (h : Alike lists records u v) (h' : Alike lists records v w) : Alike lists records u w := by
  cases h with
  | number h =>
      cases h' with
      | number h' => exact .number (BEq.trans h h')
  | list h =>
      cases h' with
      | list h' => exact .list (hlists h h')
  | record h =>
      cases h' with
      | record h' => exact .record (hrecords h h')
  | object hid h =>
      cases h' with
      | object hid' h' => exact .object (hid.trans hid') (hrecords h h')
  | ofClass hid =>
      cases h' with
      | ofClass hid' => exact .ofClass (hid.trans hid')
  | ofGroup hid =>
      cases h' with
      | ofGroup hid' => exact .ofGroup (hid.trans hid')
  | function hid =>
      cases h' with
      | function hid' => exact .function (hid.trans hid')
  | lambda hid =>
      cases h' with
      | lambda hid' => exact .lambda (hid.trans hid')
  | _ => exact h'

lemma mono {lists' : ListRef → ListRef → Prop} {records' : RecordRef → RecordRef → Prop}
    (hlists : ∀ {a b}, lists a b → lists' a b) (hrecords : ∀ {a b}, records a b → records' a b)
    (h : Alike lists records v w) : Alike lists' records' v w := by
  cases h with
  | number h => exact .number h
  | string s => exact .string s
  | boolean b => exact .boolean b
  | nil => exact .nil
  | list h => exact .list (hlists h)
  | record h => exact .record (hrecords h)
  | object hid h => exact .object hid (hrecords h)
  | ofClass hid => exact .ofClass hid
  | ofGroup hid => exact .ofGroup hid
  | function hid => exact .function hid
  | lambda hid => exact .lambda hid
  | native f => exact .native f

end Alike

/-- Whether the value is the number that differs from itself. -/
def isNaN : Value → Bool
  | .number x => x.isNaN
  | _ => false

/-- Where every list and every record is equal to itself, so is every value but a NaN. -/
lemma Alike.refl {lists : ListRef → ListRef → Prop} {records : RecordRef → RecordRef → Prop}
    (hlists : ∀ a, lists a a) (hrecords : ∀ a, records a a) {v : Value} (h : v.isNaN = false) :
    Alike lists records v v := by
  cases v with
  | number x =>
      have hself : (x == x) = !x.isNaN := beq_number_self x
      rw [show x.isNaN = false from h] at hself
      exact .number hself
  | string s => exact .string s
  | boolean b => exact .boolean b
  | nil => exact .nil
  | list a => exact .list (hlists a)
  | record a => exact .record (hrecords a)
  | object c a => exact .object rfl (hrecords a)
  | ofClass c => exact .ofClass rfl
  | ofGroup g => exact .ofGroup rfl
  | function f => exact .function rfl
  | lambda f => exact .lambda rfl
  | native f => exact .native f

/-! ### All levels -/

/-- The items of the lists are equal to the depth, place by place. -/
def EqualItems (st : Store) (depth : Nat) (a b : ListRef) : Prop :=
  List.Forall₂ (fun v w => equalWithin st depth v w = true) (st.list a).toList (st.list b).toList

/-- Under each name both records have nothing, or values that are equal to the depth. -/
def EqualFields (st : Store) (depth : Nat) (a b : RecordRef) : Prop :=
  ∀ x, Option.Rel (fun v w => equalWithin st depth v w = true) ((st.record a).find? x)
    ((st.record b).find? x)

/-- When lists are equal to the depth: if they are one list, or their items are equal to the next smaller
depth. -/
def SameList (st : Store) : Nat → ListRef → ListRef → Prop
  | 0, a, b => a = b
  | depth + 1, a, b => a = b ∨ EqualItems st depth a b

/-- When records are equal to the depth. -/
def SameRecord (st : Store) : Nat → RecordRef → RecordRef → Prop
  | 0, a, b => a = b
  | depth + 1, a, b => a = b ∨ EqualFields st depth a b

section

variable {st : Store} {depth : Nat} {u v w : Value}

/-- Equality to a depth, one level unfolded. -/
theorem equalWithin_iff_alike :
    equalWithin st depth v w = true ↔ Alike (SameList st depth) (SameRecord st depth) v w := by
  constructor
  · intro h
    unfold equalWithin at h
    split at h
    · exact .number h
    · obtain rfl := beq_iff_eq.mp h
      exact .string _
    · obtain rfl := beq_iff_eq.mp h
      exact .boolean _
    · exact .nil
    · next a b =>
      refine .list ?_
      cases depth with
      | zero => simpa [SameList] using h
      | succ depth => simpa [SameList, EqualItems, equalItems_iff] using h
    · next a b =>
      refine .record ?_
      cases depth with
      | zero => simpa [SameRecord] using h
      | succ depth => simpa [SameRecord, EqualFields, equalFields_iff] using h
    · next c a d b =>
      rw [Bool.and_eq_true, beq_iff_eq] at h
      refine .object h.1 ?_
      cases depth with
      | zero => simpa [SameRecord] using h.2
      | succ depth => simpa [SameRecord, EqualFields, equalFields_iff] using h.2
    · exact .ofClass (beq_iff_eq.mp h)
    · exact .ofGroup (beq_iff_eq.mp h)
    · exact .function (beq_iff_eq.mp h)
    · exact .lambda (beq_iff_eq.mp h)
    · obtain rfl := beq_iff_eq.mp h
      exact .native _
    · cases h
  · intro h
    cases h with
    | number h => rwa [equalWithin]
    | string s => simp [equalWithin]
    | boolean b => simp [equalWithin]
    | nil => simp [equalWithin]
    | list h => cases depth <;> simpa [equalWithin, SameList, EqualItems, equalItems_iff] using h
    | record h => cases depth <;> simpa [equalWithin, SameRecord, EqualFields, equalFields_iff] using h
    | object hid h =>
        cases depth <;> simpa [equalWithin, hid, SameRecord, EqualFields, equalFields_iff] using h
    | ofClass hid | ofGroup hid | function hid | lambda hid => simp [equalWithin, hid]
    | native f => simp [equalWithin]

/-- **Equality is symmetric**, by induction on the depth. -/
theorem equalWithin_symm (h : equalWithin st depth v w = true) : equalWithin st depth w v = true := by
  induction depth generalizing v w with
  | zero =>
      rw [equalWithin_iff_alike] at h ⊢
      exact h.symm Eq.symm Eq.symm
  | succ depth ih =>
      have hitems : ∀ {a b}, EqualItems st depth a b → EqualItems st depth b a :=
        fun h => .flip (h.imp fun _ _ => ih)
      have hfields : ∀ {a b}, EqualFields st depth a b → EqualFields st depth b a :=
        fun h x => rel_symm (h x) ih
      rw [equalWithin_iff_alike] at h ⊢
      exact h.symm (Or.imp Eq.symm hitems) (Or.imp Eq.symm hfields)

/-- **Equality is transitive**, by induction on the depth. -/
theorem equalWithin_trans (h : equalWithin st depth u v = true) (h' : equalWithin st depth v w = true) :
    equalWithin st depth u w = true := by
  induction depth generalizing u v w with
  | zero =>
      rw [equalWithin_iff_alike] at h h' ⊢
      exact h.trans Eq.trans Eq.trans h'
  | succ depth ih =>
      -- one step may be by identity and the other by contents; `eq_or_trans` takes care of the mix
      have hitems : ∀ {a b c}, EqualItems st depth a b → EqualItems st depth b c →
          EqualItems st depth a c :=
        fun h h' => forall₂_trans h h' ih
      have hfields : ∀ {a b c}, EqualFields st depth a b → EqualFields st depth b c →
          EqualFields st depth a c :=
        fun h h' x => rel_trans (h x) (h' x) ih
      rw [equalWithin_iff_alike] at h h' ⊢
      exact h.trans (fun h h' => eq_or_trans h h' hitems) (fun h h' => eq_or_trans h h' hfields) h'

/-- What is equal to a depth is equal to the next greater one: only more contents are compared. -/
lemma equalWithin_succ (h : equalWithin st depth v w = true) : equalWithin st (depth + 1) v w = true := by
  induction depth generalizing v w with
  | zero =>
      rw [equalWithin_iff_alike] at h ⊢
      exact h.mono Or.inl Or.inl
  | succ depth ih =>
      have hitems : ∀ {a b}, EqualItems st depth a b → EqualItems st (depth + 1) a b :=
        fun h => h.imp fun _ _ => ih
      have hfields : ∀ {a b}, EqualFields st depth a b → EqualFields st (depth + 1) a b :=
        fun h x => rel_imp (h x) ih
      rw [equalWithin_iff_alike] at h ⊢
      exact h.mono (Or.imp_right hitems) (Or.imp_right hfields)

/-- Only a NaN differs from itself: whatever stands in a container, it equals itself. -/
theorem equalWithin_self (st : Store) (depth : Nat) (v : Value) :
    equalWithin st depth v v = !v.isNaN := by
  cases hnan : v.isNaN with
  | false =>
      refine equalWithin_iff_alike.mpr ?_
      cases depth with
      | zero => exact .refl (fun _ => rfl) (fun _ => rfl) hnan
      | succ depth => exact .refl (fun _ => Or.inl rfl) (fun _ => Or.inl rfl) hnan
  | true =>
      cases v with
      | number x =>
          rw [← hnan, equalWithin]
          exact beq_number_self x
      | _ => cases hnan

end

end Value

end RecordLang
