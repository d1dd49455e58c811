import RecordLang.Proofs.Membership
import RecordLang.Proofs.Results

/-!
The check that a class makes of the fields of a record.

A record can be wrong in three ways: a declared field is absent, a field is there that is not declared, a
value does not conform. One error is reported, and these three come in that order, each at the first
field where it occurs. Absent and undeclared fields are found by searching keys; crossing off the
declared keys in what is there finds the same, and so does counting, as conformance to a record type
does.

* `IsFirst`: a member of a list is the first with a property.
* `Shape.Verdict`: what the check has to say, said without searching.
* `Shape.check_eq_iff_verdict`: the check says it.
* `Shape.checkCrossingOff_eq`: crossing off keys finds the same.
* `Shape.check_eq_ok_iff_accepts`: a record passes exactly if it conforms to the record type.
* `construction_check_determined`: the main statement.
-/

namespace RecordLang

/-! ### The first member with a property -/

/-- `a` is a member with the property, and there is none before it. -/
def IsFirst {α : Type} (p : α → Prop) (as : List α) (a : α) : Prop :=
  p a ∧ ∃ before after, as = before ++ a :: after ∧ ∀ b ∈ before, ¬ p b

lemma IsFirst.mem {α : Type} {p : α → Prop} {as : List α} {a : α} (h : IsFirst p as a) : a ∈ as := by
  obtain ⟨-, before, after, rfl, -⟩ := h
  simp

lemma forall_not_or_exists_isFirst {α : Type} (p : α → Prop) (as : List α) :
    (∀ a ∈ as, ¬ p a) ∨ ∃ a, IsFirst p as a := by
  induction as with
  | nil => exact Or.inl fun a ha => absurd ha List.not_mem_nil
  | cons a rest ih =>
      by_cases ha : p a
      · exact Or.inr ⟨a, ha, [], rest, rfl, fun b hb => absurd hb List.not_mem_nil⟩
      obtain hnone | ⟨b, hb, before, after, rfl, hbefore⟩ := ih
      · exact Or.inl (List.forall_mem_cons.mpr ⟨ha, hnone⟩)
      · exact Or.inr ⟨b, hb, a :: before, after, rfl, List.forall_mem_cons.mpr ⟨ha, hbefore⟩⟩

section

variable {α : Type} {t : Table α} {names : List String}

lemma not_contains_iff {x : String} : (!t.contains x) = true ↔ x ∉ t.keys := by
  rw [Bool.not_eq_true', ← Bool.not_eq_true, Table.contains, Table.find?_isSome]

/-- The search for a name that a table lacks finds the first. -/
lemma find?_not_contains_eq_some_iff {name : String} :
    (names.find? fun x => !t.contains x) = some name ↔ IsFirst (· ∉ t.keys) names name := by
  simp only [IsFirst, ← not_contains_iff]
  simp [List.find?_eq_some_iff_append]

lemma find?_not_contains_eq_none_iff :
    (names.find? fun x => !t.contains x) = none ↔ ∀ x ∈ names, x ∈ t.keys := by
  simp only [List.find?_eq_none, not_contains_iff, not_not]

end

namespace Shape

variable {types : Registry} {st : Store} {shape : Shape} {found : Table Value} {owner : String}
  {span : Option Span}

/-! ### What the check says -/

/-- The value of the field, if it is there, conforms to the declared type. -/
def Conforms (types : Registry) (st : Store) (found : Table Value) (field : String × Ty) : Prop :=
  ∀ v, found.find? field.1 = some v → field.2.accepts types st v = .ok true

/-- The verdict on the fields found. The first declared field that is absent counts before the first
field that is not declared, and this before the first declared field with a value that does not conform;
if the type of that value cannot be decided, the verdict is the error that says so. -/
inductive Verdict (types : Registry) (st : Store) (shape : Shape) (found : Table Value)
    (owner : String) (span : Option Span) : Except Error Unit → Prop where
  | missing {name : String} : IsFirst (· ∉ found.keys) shape.keys name →
      Verdict types st shape found owner span (.error (.fault (.missingField owner name) span))
  | unexpected {name : String} : (∀ x ∈ shape.keys, x ∈ found.keys) →
      IsFirst (· ∉ shape.keys) found.keys name →
      Verdict types st shape found owner span (.error (.fault (.unexpectedField owner name) span))
  | mismatch {name : String} {type : Ty} {v : Value} : (∀ x, x ∈ found.keys ↔ x ∈ shape.keys) →
      IsFirst (¬ Conforms types st found ·) shape.entries (name, type) →
      found.find? name = some v → type.accepts types st v = .ok false →
      Verdict types st shape found owner span
        (.error (.fault (.typeMismatch s!"field `{owner}.{name}`" type.text v.typeName) span))
  | undecided {name : String} {type : Ty} {v : Value} {e : Error} :
      (∀ x, x ∈ found.keys ↔ x ∈ shape.keys) →
      IsFirst (¬ Conforms types st found ·) shape.entries (name, type) →
      found.find? name = some v → type.accepts types st v = .error e →
      Verdict types st shape found owner span (.error e)
  | passed : (∀ x, x ∈ found.keys ↔ x ∈ shape.keys) →
      (∀ field ∈ shape.entries, Conforms types st found field) →
      Verdict types st shape found owner span (.ok ())

/-- Fields that conform are passed over. -/
lemma checkTypes_append_of_conforms {before : List (String × Ty)}
    (h : ∀ field ∈ before, Conforms types st found field) (after : List (String × Ty)) :
    checkTypes types st found owner span (before ++ after)
      = checkTypes types st found owner span after := by
  induction before with
  | nil => rfl
  | cons field rest ih =>
      obtain ⟨name, type⟩ := field
      obtain ⟨hfield, hrest⟩ := List.forall_mem_cons.mp h
      rw [List.cons_append, checkTypes]
      cases hv : found.find? name with
      | none => exact ih hrest
      | some v =>
          dsimp only
          rw [hfield v hv]
          exact ih hrest

/-- The check goes on to the types if the fields are those declared. -/
lemma check_eq_checkTypes (h : ∀ x, x ∈ found.keys ↔ x ∈ shape.keys) :
    check types st shape found owner span
      = checkTypes types st found owner span shape.entries := by
  rw [check, find?_not_contains_eq_none_iff.mpr fun x => (h x).mpr,
    find?_not_contains_eq_none_iff.mpr fun x => (h x).mp]

/-- Then it comes to the first field that does not conform. -/
lemma exists_check_eq_checkTypes (h : ∀ x, x ∈ found.keys ↔ x ∈ shape.keys) {field : String × Ty}
    (hfirst : IsFirst (¬ Conforms types st found ·) shape.entries field) :
    ∃ after, check types st shape found owner span
      = checkTypes types st found owner span (field :: after) := by
  obtain ⟨-, before, after, hentries, hbefore⟩ := hfirst
  simp only [not_not] at hbefore
  refine ⟨after, ?_⟩
  rw [check_eq_checkTypes h, hentries, checkTypes_append_of_conforms hbefore]

lemma Verdict.check_eq {o : Except Error Unit} (h : Verdict types st shape found owner span o) :
    check types st shape found owner span = o := by
  cases h with
  | missing hname => rw [check, find?_not_contains_eq_some_iff.mpr hname]
  | unexpected hdeclared hname =>
      rw [check, find?_not_contains_eq_none_iff.mpr hdeclared,
        find?_not_contains_eq_some_iff.mpr hname]
  | mismatch hkeys hfirst hv hfalse =>
      obtain ⟨after, hcheck⟩ := exists_check_eq_checkTypes hkeys hfirst
      rw [hcheck, checkTypes, hv]
      dsimp only
      rw [hfalse]
      rfl
  | undecided hkeys hfirst hv herror =>
      obtain ⟨after, hcheck⟩ := exists_check_eq_checkTypes hkeys hfirst
      rw [hcheck, checkTypes, hv]
      dsimp only
      rw [herror]
      rfl
  | passed hkeys hall =>
      rw [check_eq_checkTypes hkeys, ← List.append_nil shape.entries,
        checkTypes_append_of_conforms hall]
      rfl

lemma exists_verdict (types : Registry) (st : Store) (shape : Shape) (found : Table Value)
    (owner : String) (span : Option Span) : ∃ o, Verdict types st shape found owner span o := by
  obtain hdeclared | ⟨name, hname⟩ := forall_not_or_exists_isFirst (· ∉ found.keys) shape.keys
  swap
  · exact ⟨_, .missing hname⟩
  obtain hfound | ⟨name, hname⟩ := forall_not_or_exists_isFirst (· ∉ shape.keys) found.keys
  swap
  · exact ⟨_, .unexpected (fun x hx => not_not.mp (hdeclared x hx)) hname⟩
  have hkeys : ∀ x, x ∈ found.keys ↔ x ∈ shape.keys :=
    fun x => ⟨fun hx => not_not.mp (hfound x hx), fun hx => not_not.mp (hdeclared x hx)⟩
  obtain hall | ⟨⟨name, type⟩, hfirst⟩ :=
    forall_not_or_exists_isFirst (¬ Conforms types st found ·) shape.entries
  · exact ⟨_, .passed hkeys fun field hfield => not_not.mp (hall field hfield)⟩
  · obtain ⟨v, hv⟩ := not_forall.mp hfirst.1
    obtain ⟨hv, haccepts⟩ := Classical.not_imp.mp hv
    rcases hverdict : type.accepts types st v with e | _ | _
    · exact ⟨_, .undecided hkeys hfirst hv hverdict⟩
    · exact ⟨_, .mismatch hkeys hfirst hv hverdict⟩
    · exact absurd hverdict haccepts

/-- **The check gives the verdict**, and there is one only. -/
theorem check_eq_iff_verdict {o : Except Error Unit} :
    check types st shape found owner span = o ↔ Verdict types st shape found owner span o := by
  refine ⟨?_, Verdict.check_eq⟩
  rintro rfl
  obtain ⟨o, ho⟩ := exists_verdict types st shape found owner span
  rwa [ho.check_eq]

/-! ### Absent and undeclared fields -/

/-- An undecided type is due to a path, so it does not look like an absent or an undeclared field. -/
lemma exists_refuses_of_accepts {type : Ty} {v : Value} {e : Error}
    (h : type.accepts types st v = .error e) : ∃ path, types.Refuses path e := by
  obtain ⟨⟨path, -, hpath⟩, -⟩ := Ty.unresolved_of_accepts type h
  exact ⟨path, Registry.refuses_of_resolve hpath⟩

lemma exists_missingField_iff :
    (∃ name, check types st shape found owner span = .error (.fault (.missingField owner name) span)) ↔
      ∃ x ∈ shape.keys, x ∉ found.keys := by
  constructor
  · rintro ⟨name, h⟩
    cases check_eq_iff_verdict.mp h with
    | missing hname => exact ⟨name, hname.mem, hname.1⟩
    | undecided _ _ _ herror =>
        obtain ⟨path, hpath⟩ := exists_refuses_of_accepts herror
        cases hpath
  · rintro ⟨x, hx, habsent⟩
    obtain hall | ⟨name, hname⟩ := forall_not_or_exists_isFirst (· ∉ found.keys) shape.keys
    · exact absurd habsent (hall x hx)
    · exact ⟨name, (Verdict.missing hname).check_eq⟩

lemma exists_unexpectedField_iff :
    (∃ name, check types st shape found owner span
        = .error (.fault (.unexpectedField owner name) span)) ↔
      (∀ x ∈ shape.keys, x ∈ found.keys) ∧ ∃ x ∈ found.keys, x ∉ shape.keys := by
  constructor
  · rintro ⟨name, h⟩
    cases check_eq_iff_verdict.mp h with
    | unexpected hdeclared hname => exact ⟨hdeclared, name, hname.mem, hname.1⟩
    | undecided _ _ _ herror =>
        obtain ⟨path, hpath⟩ := exists_refuses_of_accepts herror
        cases hpath
  · rintro ⟨hdeclared, x, hx, hextra⟩
    obtain hall | ⟨name, hname⟩ := forall_not_or_exists_isFirst (· ∉ shape.keys) found.keys
    · exact absurd hextra (hall x hx)
    · exact ⟨name, (Verdict.unexpected hdeclared hname).check_eq⟩

/-! ### Other ways to check -/

/-- A record passes exactly if it conforms to the record type. -/
theorem check_eq_ok_iff_accepts {r : RecordRef} :
    check types st shape (st.record r) owner span = .ok () ↔
      shape.toTy.accepts types st (.record r) = .ok true := by
  have hverdict : Verdict types st shape (st.record r) owner span (.ok ()) ↔
      (∀ x, x ∈ (st.record r).keys ↔ x ∈ shape.keys) ∧
        ∀ field ∈ shape.entries, Conforms types st (st.record r) field := by
    constructor
    · intro h
      cases h with
      | passed hkeys hall => exact ⟨hkeys, hall⟩
    · exact fun h => .passed h.1 h.2
  rw [check_eq_iff_verdict, hverdict, toTy, Ty.accepts_record_eq_true_iff]
  exact Table.same_keys_and_iff shape.distinct

/-- Crosses off the declared names in `left`, one after the other, up to the first that is not there. -/
def crossOff : List String → List String → Except String (List String)
  | [], left => .ok left
  | name :: rest, left => if name ∈ left then crossOff rest (left.erase name) else .error name

/-- The check by crossing off declared names: what cannot be crossed off is absent, and what is left over
was not declared. -/
def checkCrossingOff (types : Registry) (st : Store) (shape : Shape) (found : Table Value)
    (owner : String) (span : Option Span) : Except Error Unit :=
  match crossOff shape.keys found.keys with
  | .error name => .error (.fault (.missingField owner name) span)
  | .ok (name :: _) => .error (.fault (.unexpectedField owner name) span)
  | .ok [] => checkTypes types st found owner span shape.entries

/-- A name that is not there stops the crossing off. -/
lemma crossOff_eq_error {declared left : List String} {name : String} (hdeclared : declared.Nodup)
    (h : IsFirst (· ∉ left) declared name) : crossOff declared left = .error name := by
  obtain ⟨hname, before, after, rfl, hbefore⟩ := h
  simp only [not_not] at hbefore
  induction before generalizing left with
  | nil => rw [List.nil_append, crossOff, if_neg hname]
  | cons x rest ih =>
      obtain ⟨hx, hrest⟩ := List.forall_mem_cons.mp hbefore
      obtain ⟨hnew, hdeclared⟩ := List.nodup_cons.mp hdeclared
      rw [List.cons_append, crossOff, if_pos hx]
      refine ih (fun hmem => hname (List.mem_of_mem_erase hmem)) hdeclared fun b hb => ?_
      -- what was crossed off is not declared again
      have hne : b ≠ x := by
        rintro rfl
        exact hnew (List.mem_append_left _ hb)
      exact (List.mem_erase_of_ne hne).mpr (hrest b hb)

/-- If all names are there, those are left over that were not declared. -/
lemma crossOff_eq_ok {declared left : List String} (hdeclared : declared.Nodup) (hleft : left.Nodup)
    (h : ∀ x ∈ declared, x ∈ left) : crossOff declared left = .ok (left.filter (· ∉ declared)) := by
  induction declared generalizing left with
  | nil => simp [crossOff]
  | cons x rest ih =>
      obtain ⟨hx, hrest⟩ := List.forall_mem_cons.mp h
      obtain ⟨hnew, hdeclared⟩ := List.nodup_cons.mp hdeclared
      rw [crossOff, if_pos hx, ih hdeclared (hleft.erase x) fun b hb => ?_, hleft.erase_eq_filter,
        List.filter_filter]
      · refine congrArg Except.ok (List.filter_congr fun a _ => ?_)
        by_cases ha : a = x <;> simp [ha]
      · have hne : b ≠ x := by
          rintro rfl
          exact hnew hb
        exact (List.mem_erase_of_ne hne).mpr (hrest b hb)

/-- Crossing off finds what searching finds. -/
theorem checkCrossingOff_eq :
    checkCrossingOff types st shape found owner span = check types st shape found owner span := by
  have hshape : shape.keys.Nodup := shape.distinct
  obtain hdeclared | ⟨name, hname⟩ := forall_not_or_exists_isFirst (· ∉ found.keys) shape.keys
  swap
  · rw [checkCrossingOff, crossOff_eq_error hshape hname, (Verdict.missing hname).check_eq]
  simp only [not_not] at hdeclared
  have hleft : crossOff shape.keys found.keys = .ok (found.keys.filter (· ∉ shape.keys)) :=
    crossOff_eq_ok hshape found.distinct hdeclared
  rw [checkCrossingOff, hleft]
  cases hrest : found.keys.filter (· ∉ shape.keys) with
  | nil =>
      have hfound : ∀ x ∈ found.keys, x ∈ shape.keys := by
        simpa [List.filter_eq_nil_iff] using hrest
      rw [check_eq_checkTypes fun x => ⟨hfound x, hdeclared x⟩]
  | cons name rest =>
      obtain ⟨before, after, hsplit, hbefore, hname, -⟩ := List.filter_eq_cons_iff.mp hrest
      have hfirst : IsFirst (· ∉ shape.keys) found.keys name :=
        ⟨by simpa using hname, before, after, hsplit, by simpa using hbefore⟩
      rw [(Verdict.unexpected hdeclared hfirst).check_eq]

end Shape

/-! ### The main statement -/

/-- An object that was made has just the declared fields, with the values of the record it was made of. -/
lemma readField_of_instantiate {types : Registry} {st st' : Store} {c : Class} {r : RecordRef}
    {span : Option Span} {v : Value} (h : c.instantiate types st r span = .ok v)
    (hrecord : st'.record r = st.record r) (x : String) (place : Span) :
    (x ∈ c.shape.keys →
      ∃ w, (st.record r).find? x = some w ∧ readField st' v x place = .ok w) ∧
    (x ∉ c.shape.keys →
      readField st' v x place = .error (.fault (.unknownField x c.displayName) (some place))) := by
  obtain ⟨u, hcheck, hobject⟩ := exists_eq_ok_of_bind h
  cases hobject
  have hkeys : ∀ y, y ∈ (st.record r).keys ↔ y ∈ c.shape.keys := by
    cases Shape.check_eq_iff_verdict.mp hcheck with
    | passed hkeys _ => exact hkeys
  rw [readField, hrecord]
  refine ⟨fun hx => ?_, fun hx => ?_⟩
  · obtain ⟨w, hw⟩ := Table.mem_keys_iff.mp ((hkeys x).mpr hx)
    exact ⟨w, hw, by rw [hw]⟩
  · cases hw : (st.record r).find? x with
    | none => rfl
    | some w => exact absurd ((hkeys x).mp (Table.mem_keys_iff.mpr ⟨w, hw⟩)) hx

/-- **The check at construction is determined.** Let a record be checked against a shape.

* The check gives the verdict: an absent field counts before an undeclared one, and this before a value
  that does not conform; of each kind the first field is reported, in the order of declaration or, for
  undeclared ones, in that of the record; an undecided type gives its own error.
* An absent field is reported exactly if there is one, and an undeclared field exactly if there is one and
  none is absent.
* Crossing off the declared names in those of the record finds the same.
* The record passes exactly if it conforms to the record type.
* An object made of the record by a class of this shape has the record's value in every declared field,
  and no other field. -/
theorem construction_check_determined (types : Registry) (st : Store) (shape : Shape) (r : RecordRef)
    (owner : String) (span : Option Span) :
    (∀ o, shape.check types st (st.record r) owner span = o ↔
      shape.Verdict types st (st.record r) owner span o) ∧
    ((∃ name, shape.check types st (st.record r) owner span
        = .error (.fault (.missingField owner name) span)) ↔
      ∃ x ∈ shape.keys, x ∉ (st.record r).keys) ∧
    ((∃ name, shape.check types st (st.record r) owner span
        = .error (.fault (.unexpectedField owner name) span)) ↔
      (∀ x ∈ shape.keys, x ∈ (st.record r).keys) ∧ ∃ x ∈ (st.record r).keys, x ∉ shape.keys) ∧
    shape.checkCrossingOff types st (st.record r) owner span
      = shape.check types st (st.record r) owner span ∧
    (shape.check types st (st.record r) owner span = .ok () ↔
      shape.toTy.accepts types st (.record r) = .ok true) ∧
    ∀ (c : Class) v, c.shape = shape → c.instantiate types st r span = .ok v →
      ∀ st', st'.record r = st.record r → ∀ x place,
        (x ∈ shape.keys → ∃ w, (st.record r).find? x = some w ∧ readField st' v x place = .ok w) ∧
        (x ∉ shape.keys →
          readField st' v x place = .error (.fault (.unknownField x c.displayName) (some place))) := by
  refine ⟨fun o => Shape.check_eq_iff_verdict, Shape.exists_missingField_iff,
    Shape.exists_unexpectedField_iff, Shape.checkCrossingOff_eq, Shape.check_eq_ok_iff_accepts, ?_⟩
  rintro c v rfl h st' hrecord x place
  exact readField_of_instantiate h hrecord x place

/-- A point with a field too many and one of the wrong type, and one too few: the one that is absent is
reported. With the right fields in any order a point is made, and its fields are read back. -/
theorem point_checked :
    let shape : Shape := .ofList [("x", .primitive .number), ("y", .primitive .string)]
    let c : Class := ⟨0, "Point", none, shape, default⟩
    let st : Store :=
      { records := #[.ofList [("z", .nil), ("y", .nil)],
          .ofList [("y", .string "up"), ("x", .number 1)]] }
    shape.check .empty st (st.record ⟨0⟩) "Point" none
        = .error (.fault (.missingField "Point" "x") none) ∧
      readField st (.object c ⟨1⟩) "y" default = .ok (.string "up") ∧
      readField st (.object c ⟨1⟩) "z" default
        = .error (.fault (.unknownField "z" "Point") (some default)) := by
  intro shape c st
  obtain ⟨hverdict, -⟩ := construction_check_determined .empty st shape ⟨0⟩ "Point" none
  have hmissing : IsFirst (· ∉ (st.record ⟨0⟩).keys) shape.keys "x" :=
    ⟨by decide, [], ["y"], rfl, by simp⟩
  obtain ⟨-, -, -, -, -, hread⟩ := construction_check_determined .empty st shape ⟨1⟩ "Point" none
  have hmade : c.instantiate .empty st ⟨1⟩ none = .ok (.object c ⟨1⟩) := rfl
  obtain ⟨hy, -⟩ := hread c _ rfl hmade st rfl "y" default
  obtain ⟨-, hz⟩ := hread c _ rfl hmade st rfl "z" default
  obtain ⟨w, hw, hread⟩ := hy (by decide)
  cases hw
  exact ⟨(hverdict _).mpr (.missing hmissing), hread, hz (by decide)⟩

end RecordLang
