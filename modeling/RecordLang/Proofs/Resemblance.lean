import Mathlib.Data.List.Forall2
import RecordLang.Conformance
import RecordLang.Pattern
import RecordLang.Proofs.Contents

/-!
What cannot be told apart.

Conformance and matching look at a value one level at a time: at its kind, at the class of an object, at
how a number compares with others, and then at what stands in its places and under its names. So two
values come out alike if they resemble each other on one level and so do the values below them, however
deep. A relation on values that goes down in this way is a resemblance. One is identity, between stores
whose records have the same fields in different orders.

* `Value.Resembles`: one level, given when the values below resemble each other.
* `IsResemblance`: a relation that goes down from level to level.
* `IsResemblance.accepts_eq`: resembling values conform to the same types.
* `IsResemblance.first?_sameAnswer`: resembling values choose the same alternative, with bindings that
  resemble each other.
* `Store.Reordered.isResemblance`: the order of fields does not show.
-/

namespace RecordLang

/-! ### Resemblance -/

/-- Under each name both tables have nothing, or related values. -/
def SameFields (R : Value → Value → Prop) (a b : Table Value) : Prop :=
  ∀ x, Option.Rel R (a.find? x) (b.find? x)

/-- One level of resemblance between values of two stores, given when the values below resemble each
other. Numbers resemble each other if no number compares differently with them, and what definitions
make if it is of one kind. -/
inductive Value.Resembles (st st' : Store) (R : Value → Value → Prop) : Value → Value → Prop where
  | number {x y : Float} : (∀ z : Float, (z == x) = (z == y)) →
      Resembles st st' R (.number x) (.number y)
  | string (s : String) : Resembles st st' R (.string s) (.string s)
  | boolean (b : Bool) : Resembles st st' R (.boolean b) (.boolean b)
  | nil : Resembles st st' R .nil .nil
  | list {a b : ListRef} : List.Forall₂ R (st.list a).toList (st'.list b).toList →
      Resembles st st' R (.list a) (.list b)
  | record {a b : RecordRef} : SameFields R (st.record a) (st'.record b) →
      Resembles st st' R (.record a) (.record b)
  | object {c d : Class} {a b : RecordRef} : c.id = d.id →
      SameFields R (st.record a) (st'.record b) → Resembles st st' R (.object c a) (.object d b)
  | ofClass (c d : Class) : Resembles st st' R (.ofClass c) (.ofClass d)
  | ofGroup (g h : Group) : Resembles st st' R (.ofGroup g) (.ofGroup h)
  | function (f g : MatchFunction) : Resembles st st' R (.function f) (.function g)
  | lambda (f g : Lambda) : Resembles st st' R (.lambda f) (.lambda g)
  | native (f g : Native) : Resembles st st' R (.native f) (.native g)

/-- Related values resemble each other on one level, and what stands below them is again related. -/
def IsResemblance (st st' : Store) (R : Value → Value → Prop) : Prop :=
  ∀ ⦃v w⦄, R v w → v.Resembles st st' R w

section

variable {st st' : Store} {R : Value → Value → Prop} {v w : Value}

lemma SameFields.cases {found found' : Table Value} (h : SameFields R found found') (x : String) :
    (found.find? x = none ∧ found'.find? x = none) ∨
      ∃ v w, found.find? x = some v ∧ found'.find? x = some w ∧ R v w := by
  have hx := h x
  revert hx
  generalize found.find? x = o, found'.find? x = o'
  rintro (hvw | _)
  · exact Or.inr ⟨_, _, rfl, rfl, hvw⟩
  · exact Or.inl ⟨rfl, rfl⟩

/-- No primitive type tells resembling values apart. -/
lemma Value.Resembles.accepts_primitive (h : v.Resembles st st' R w) (p : Primitive) :
    p.accepts v = p.accepts w := by
  cases h <;> cases p <;> rfl

/-- No literal tells resembling values apart. -/
lemma Value.Resembles.literalMatches (h : v.Resembles st st' R w) (l : Literal) :
    Pattern.literalMatches l v = Pattern.literalMatches l w := by
  cases h with
  | number h =>
      cases l with
      | number z => exact h z
      | _ => rfl
  | _ => cases l <;> rfl

/-- What a type name stands for looks at the number of a class only. -/
lemma TypeEntry.covers_congr {c d : Class} (h : c.id = d.id) (entry : TypeEntry) :
    entry.covers c = entry.covers d := by
  cases entry <;> simp only [covers, Group.contains, h]

/-! ### Conformance -/

/-- Loops over items that answer alike place by place answer alike. -/
lemma allM_eq_of_forall₂ {α β : Type} {p : α → Except Error Bool} {q : β → Except Error Bool}
    {as : List α} {bs : List β} (h : List.Forall₂ (fun a b => p a = q b) as bs) :
    as.allM p = bs.allM q := by
  induction h with
  | nil => rfl
  | cons hab _ ih => rw [List.allM, List.allM, hab, ih]

namespace IsResemblance

variable {types : Registry}

mutual

/-- **Resembling values conform to the same types**, and fail with the same error. -/
theorem accepts_eq (hR : IsResemblance st st' R) (type : Ty) {v w : Value} (h : R v w) :
    type.accepts types st v = type.accepts types st' w := by
  cases type with
  | primitive p => rw [Ty.accepts, Ty.accepts, (hR h).accepts_primitive]
  | reference path =>
      cases hR h with
      | object hid _ =>
          rw [Ty.accepts, Ty.accepts]
          simp only [TypeEntry.covers_congr hid]
      | _ => rfl
  | record fields =>
      cases hR h with
      | record hfields =>
          rw [Ty.accepts, Ty.accepts, Table.size_eq_of_rel hfields, hR.acceptsFields_eq fields hfields]
      | _ => rfl
  | list item =>
      cases hR h with
      | list hitems =>
          rw [Ty.accepts, Ty.accepts]
          exact allM_eq_of_forall₂ (hitems.imp fun _ _ hitem => hR.accepts_eq item hitem)
      | _ => rfl
  | union alternatives => rw [Ty.accepts, Ty.accepts, hR.acceptsAny_eq alternatives h]

theorem acceptsFields_eq (hR : IsResemblance st st' R) (fields : List (String × Ty))
    {found found' : Table Value} (h : SameFields R found found') :
    Ty.acceptsFields types st fields found = Ty.acceptsFields types st' fields found' := by
  cases fields with
  | nil => rfl
  | cons field rest =>
      obtain ⟨name, type⟩ := field
      rw [Ty.acceptsFields, Ty.acceptsFields]
      obtain ⟨hv, hw⟩ | ⟨v, w, hv, hw, hvw⟩ := h.cases name
      · rw [hv, hw]
      · rw [hv, hw]
        dsimp only
        rw [hR.accepts_eq type hvw, hR.acceptsFields_eq rest h]

theorem acceptsAny_eq (hR : IsResemblance st st' R) (alternatives : List Ty) {v w : Value}
    (h : R v w) :
    Ty.acceptsAny types st alternatives v = Ty.acceptsAny types st' alternatives w := by
  cases alternatives with
  | nil => rfl
  | cons type rest =>
      rw [Ty.acceptsAny, Ty.acceptsAny, hR.accepts_eq type h, hR.acceptsAny_eq rest h]

end

end IsResemblance

/-! ### Matching -/

/-- Two computations fail with the same error, or both succeed, with related results. -/
inductive SameAnswer {α β : Type} (S : α → β → Prop) : Except Error α → Except Error β → Prop where
  | error (e : Error) : SameAnswer S (.error e) (.error e)
  | ok {a : α} {b : β} : S a b → SameAnswer S (.ok a) (.ok b)

lemma SameAnswer.cases {α β : Type} {S : α → β → Prop} {x : Except Error (Option α)}
    {y : Except Error (Option β)} (h : SameAnswer (Option.Rel S) x y) :
    (∃ e, x = .error e ∧ y = .error e) ∨ (x = .ok none ∧ y = .ok none) ∨
      ∃ a b, x = .ok (some a) ∧ y = .ok (some b) ∧ S a b := by
  cases h with
  | error e => exact Or.inl ⟨e, rfl, rfl⟩
  | ok h =>
      cases h with
      | none => exact Or.inr (Or.inl ⟨rfl, rfl⟩)
      | some hab => exact Or.inr (Or.inr ⟨_, _, rfl, rfl, hab⟩)

/-- The same names in the same order, with related values. -/
def SameBindings (R : Value → Value → Prop) (bs cs : Bindings) : Prop :=
  List.Forall₂ (fun b c => b.1 = c.1 ∧ R b.2 c.2) bs cs

/-- Both searches find nothing, or both find the same alternative, with related bindings. -/
def SameChoice (R : Value → Value → Prop) {α : Type} :
    Option (α × Bindings) → Option (α × Bindings) → Prop :=
  Option.Rel fun x y => x.1 = y.1 ∧ SameBindings R x.2 y.2

namespace IsResemblance

variable {types : Registry}

mutual

/-- **Resembling values match the same patterns**, and bind resembling values to the same names. -/
theorem bindings?_sameAnswer (hR : IsResemblance st st' R) (p : Expr) {v w : Value} (h : R v w) :
    SameAnswer (Option.Rel (SameBindings R)) (Pattern.bindings? types st p v)
      (Pattern.bindings? types st' p w) := by
  cases p with
  | identifier name span =>
      rw [Pattern.bindings?, Pattern.bindings?]
      split_ifs
      · exact .ok (.some .nil)
      · exact .ok (.some (.cons ⟨rfl, h⟩ .nil))
  | literal l span =>
      rw [Pattern.bindings?, Pattern.bindings?, (hR h).literalMatches l]
      split_ifs
      · exact .ok (.some .nil)
      · exact .ok .none
  | record fields span =>
      cases hR h with
      | record hfields => exact hR.fieldBindings?_sameAnswer fields hfields
      | _ => exact .ok .none
  | callNamed callee fields span =>
      cases callee with
      | typeRef path =>
          rw [Pattern.bindings?, Pattern.bindings?]
          cases types.resolveClass path with
          | error e => exact .error e
          | ok c =>
              cases hR h with
              | object hid hfields =>
                  dsimp only
                  rw [hid]
                  split_ifs
                  · exact hR.fieldBindings?_sameAnswer fields hfields
                  · exact .ok .none
              | _ => exact .ok .none
      | _ => exact .error _
  | _ => exact .error _

theorem fieldBindings?_sameAnswer (hR : IsResemblance st st' R) (fields : List (String × Expr))
    {found found' : Table Value} (h : SameFields R found found') :
    SameAnswer (Option.Rel (SameBindings R)) (Pattern.fieldBindings? types st fields found)
      (Pattern.fieldBindings? types st' fields found') := by
  cases fields with
  | nil => exact .ok (.some .nil)
  | cons field rest =>
      obtain ⟨name, p⟩ := field
      rw [Pattern.fieldBindings?, Pattern.fieldBindings?]
      obtain ⟨hv, hw⟩ | ⟨v, w, hv, hw, hvw⟩ := h.cases name
      · rw [hv, hw]
        exact .ok .none
      rw [hv, hw]
      dsimp only
      obtain ⟨e, hx, hy⟩ | ⟨hx, hy⟩ | ⟨bs, cs, hx, hy, hbs⟩ := (hR.bindings?_sameAnswer p hvw).cases
      · rw [hx, hy]
        exact .error e
      · rw [hx, hy]
        exact .ok .none
      rw [hx, hy]
      dsimp only
      obtain ⟨e, hx, hy⟩ | ⟨hx, hy⟩ | ⟨bs', cs', hx, hy, hbs'⟩ :=
        (hR.fieldBindings?_sameAnswer rest h).cases
      · rw [hx, hy]
        exact .error e
      · rw [hx, hy]
        exact .ok .none
      · rw [hx, hy]
        exact .ok (.some (List.rel_append hbs hbs'))

end

lemma match?_sameAnswer (hR : IsResemblance st st' R) (p : Expr) {v w : Value} (h : R v w) :
    SameAnswer (Option.Rel (SameBindings R)) (Pattern.match? types st p v)
      (Pattern.match? types st' p w) := by
  rw [Pattern.match?, Pattern.match?]
  cases Pattern.validate p with
  | error e => exact .error e
  | ok u => exact hR.bindings?_sameAnswer p h

/-- Resembling values choose the same alternative: those before it are passed over for both. -/
theorem first?_sameAnswer (hR : IsResemblance st st' R) {α : Type} (alternatives : List (Expr × α))
    {v w : Value} (h : R v w) :
    SameAnswer (SameChoice R) (Pattern.first? types st v alternatives)
      (Pattern.first? types st' w alternatives) := by
  induction alternatives with
  | nil => exact .ok .none
  | cons alternative rest ih =>
      obtain ⟨p, a⟩ := alternative
      rw [Pattern.first?, Pattern.first?]
      obtain ⟨e, hx, hy⟩ | ⟨hx, hy⟩ | ⟨bs, cs, hx, hy, hbs⟩ := (hR.match?_sameAnswer p h).cases
      · rw [hx, hy]
        exact .error e
      · rw [hx, hy]
        exact ih
      · rw [hx, hy]
        exact .ok (.some ⟨rfl, hbs⟩)

end IsResemblance

/-! ### Identity and the order of fields -/

lemma SameFields.refl (hR : ∀ v, R v v) (found : Table Value) : SameFields R found found := by
  intro x
  cases found.find? x with
  | none => exact .none
  | some v => exact .some (hR v)

/-- A value resembles itself in two stores if the contents of each container do. -/
lemma Value.resembles_self
    (hitems : ∀ r, List.Forall₂ R (st.list r).toList (st'.list r).toList)
    (hfields : ∀ r, SameFields R (st.record r) (st'.record r)) (v : Value) :
    v.Resembles st st' R v := by
  cases v with
  | number x => exact .number fun _ => rfl
  | string s => exact .string s
  | boolean b => exact .boolean b
  | nil => exact .nil
  | list r => exact .list (hitems r)
  | record r => exact .record (hfields r)
  | object c r => exact .object rfl (hfields r)
  | ofClass c => exact .ofClass c c
  | ofGroup g => exact .ofGroup g g
  | function f => exact .function f f
  | lambda f => exact .lambda f f
  | native f => exact .native f f

/-- The stores have the same lists, and records with the same fields, each in an order of its own. -/
structure Store.Reordered (st st' : Store) : Prop where
  lists : ∀ r, st'.list r = st.list r
  records : ∀ r, (st'.record r).entries.Perm (st.record r).entries

/-- Identity is a resemblance between stores with reordered records. -/
lemma Store.Reordered.isResemblance (h : st.Reordered st') : IsResemblance st st' Eq := by
  rintro v _ rfl
  refine Value.resembles_self (fun r => ?_) (fun r x => ?_) v
  · rw [h.lists r]
    exact List.forall₂_same.mpr fun _ _ => rfl
  · rw [Table.find?_eq_of_perm (h.records r) x]
    exact SameFields.refl (fun _ => rfl) _ x

/-- Searches that bind identical values have the same outcome. -/
lemma SameAnswer.eq_of_identity {α : Type} {x y : Except Error (Option (α × Bindings))}
    (h : SameAnswer (SameChoice Eq) x y) : x = y := by
  obtain ⟨e, rfl, rfl⟩ | ⟨rfl, rfl⟩ | ⟨⟨a, bs⟩, ⟨b, cs⟩, rfl, rfl, hchoice, hbindings⟩ := h.cases
  · rfl
  · rfl
  · have hidentical : List.Forall₂ Eq bs cs := hbindings.imp fun _ _ hb => Prod.ext hb.1 hb.2
    obtain rfl : a = b := hchoice
    obtain rfl : bs = cs := by rwa [List.forall₂_eq_eq_eq] at hidentical
    rfl

end

end RecordLang
