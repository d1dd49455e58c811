import RecordLang.Proofs.Contents
import RecordLang.Proofs.Positions.Reading
import RecordLang.Proofs.TypeText

/-!
The text of a type and what conforms to it.

A value is tried against the alternatives of a type in their order, and against those of an inner union
when its turn comes. So it is tried against all alternatives in the order in which they are written,
however they are grouped, and the first that it conforms to, or that cannot be resolved, is the same.
The verdict is then that of the alternatives, which the text determines. Only the place in an error is
not in the text.

* `Table.entries_ofList`: a table made of pairs without repetitions has just these pairs.
* `Ty.text_ofDeclared`: the checked form of a type is written like the type.
* `Alternative.type`: an alternative as a checked type.
* `Ty.acceptsAny_append`: alternatives one after the other.
* `TypeExpr.Plain.accepts_eq`: the verdict on a value is that of the alternatives.
* `text_determines_verdicts`: the main statement.
-/

namespace RecordLang

/-! ### Tables without repetitions -/

namespace Table

variable {α : Type}

lemma put_of_not_mem {entries : List (String × α)} {key : String} (h : key ∉ entries.map Prod.fst)
    (a : α) : put entries key a = entries ++ [(key, a)] := by
  induction entries with
  | nil => rfl
  | cons entry rest ih =>
      obtain ⟨k, b⟩ := entry
      rw [List.map_cons, List.mem_cons, not_or] at h
      rw [put, if_neg (Ne.symm h.1), ih h.2, List.cons_append]

/-- A table made of pairs with distinct keys has just these pairs, in their order. -/
lemma entries_ofList {pairs : List (String × α)} (h : (pairs.map Prod.fst).Nodup) :
    (ofList pairs).entries = pairs := by
  have hfold : ∀ (pairs : List (String × α)) (t : Table α),
      (t.entries.map Prod.fst ++ pairs.map Prod.fst).Nodup →
      (pairs.foldl (fun t p => t.insert p.1 p.2) t).entries = t.entries ++ pairs := by
    intro pairs
    induction pairs with
    | nil => simp
    | cons p rest ih =>
        intro t hnodup
        have hp : p.1 ∉ t.entries.map Prod.fst := by
          intro hmem
          exact (List.nodup_append.mp hnodup).2.2 p.1 hmem p.1 (by simp) rfl
        have hinsert : (t.insert p.1 p.2).entries = t.entries ++ [p] := put_of_not_mem hp p.2
        rw [List.foldl_cons, ih, hinsert, List.append_assoc, List.singleton_append]
        rw [hinsert]
        simpa using hnodup
  exact hfold pairs empty h

end Table

/-! ### The checked form of a type -/

namespace Ty

lemma map_fst_ofDeclaredFields (fields : List FieldType) :
    (ofDeclaredFields fields).map Prod.fst = fields.map FieldType.name := by
  induction fields with
  | nil => rfl
  | cons field rest ih =>
      obtain ⟨name, type, span⟩ := field
      rw [ofDeclaredFields, List.map_cons, ih]
      rfl

/-- Without repeated names, the checked form of a record type has its fields as they are declared. -/
lemma ofDeclared_record {fields : List FieldType} (h : (fields.map FieldType.name).Nodup) :
    ofDeclared (.record fields) = .record (ofDeclaredFields fields) := by
  rw [ofDeclared, Table.entries_ofList]
  rwa [map_fst_ofDeclaredFields]

mutual

/-- **The checked form is written like the type.** -/
theorem text_ofDeclared (t : TypeExpr) (ht : t.Plain) : (ofDeclared t).text = t.text := by
  cases t with
  | primitive p => simp only [ofDeclared, text, TypeExpr.text]
  | named path => simp only [ofDeclared, text, TypeExpr.text]
  | list item => simp only [ofDeclared, text, TypeExpr.text, text_ofDeclared item ht]
  | record fields =>
      simp only [ofDeclared_record ht.1, text, TypeExpr.text, fieldTexts_ofDeclaredFields fields ht.2]
  | union types => simp only [ofDeclared, text, TypeExpr.text, texts_ofDeclaredAll types ht.2]

theorem fieldTexts_ofDeclaredFields (fields : List FieldType) (hplain : TypeExpr.PlainFields fields) :
    fieldTexts (ofDeclaredFields fields) = TypeExpr.fieldTexts fields := by
  cases fields with
  | nil => rfl
  | cons field rest =>
      obtain ⟨name, type, span⟩ := field
      simp only [ofDeclaredFields, fieldTexts, TypeExpr.fieldTexts, text_ofDeclared type hplain.2.1,
        fieldTexts_ofDeclaredFields rest hplain.2.2]

theorem texts_ofDeclaredAll (types : List TypeExpr) (hplain : TypeExpr.PlainAll types) :
    texts (ofDeclaredAll types) = TypeExpr.texts types := by
  cases types with
  | nil => rfl
  | cons type rest =>
      simp only [ofDeclaredAll, texts, TypeExpr.texts, text_ofDeclared type hplain.1,
        texts_ofDeclaredAll rest hplain.2]

end

end Ty

/-! ### Verdicts of alternatives -/

namespace Alternative

mutual

/-- The alternative as a checked type without places. -/
def type : Alternative → Ty
  | .name (.primitive p) => .primitive p
  | .name (.path segments) => .reference ⟨segments, default⟩
  | .list item => .list (.union (types item))
  | .record fields => .record (fieldTypes fields)

/-- The alternatives as checked types. -/
def types : List Alternative → List Ty
  | [] => []
  | a :: rest => a.type :: types rest

/-- The fields as checked fields. -/
def fieldTypes : List (String × List Alternative) → List (String × Ty)
  | [] => []
  | (x, alternatives) :: rest => (x, .union (types alternatives)) :: fieldTypes rest

end

lemma types_append (as bs : List Alternative) : types (as ++ bs) = types as ++ types bs := by
  induction as with
  | nil => rfl
  | cons a rest ih => rw [List.cons_append, types, types, ih, List.cons_append]

end Alternative

section

variable {types : Registry} {st : Store}

/-- What one alternative says is the verdict if there is no other. -/
lemma Ty.acceptsAny_singleton (type : Ty) (v : Value) :
    acceptsAny types st [type] v = type.accepts types st v := by
  rw [acceptsAny]
  rcases type.accepts types st v with e | _ | _
  · rfl
  · rw [acceptsAny]
    rfl
  · rfl

/-- Alternatives are tried one after the other, until one accepts the value or fails. -/
lemma Ty.acceptsAny_append (left right : List Ty) (v : Value) :
    acceptsAny types st (left ++ right) v = (do
      if ← acceptsAny types st left v then .ok true else acceptsAny types st right v) := by
  induction left with
  | nil =>
      rw [acceptsAny]
      rfl
  | cons type rest ih =>
      rw [List.cons_append, acceptsAny, acceptsAny]
      rcases type.accepts types st v with e | _ | _
      · rfl
      · exact ih
      · rfl

namespace TypeExpr

lemma length_fieldTypes_fieldAlternatives (fields : List FieldType) :
    (Alternative.fieldTypes (fieldAlternatives fields)).length = fields.length := by
  induction fields with
  | nil => rfl
  | cons field rest ih =>
      obtain ⟨name, type, span⟩ := field
      rw [fieldAlternatives, Alternative.fieldTypes, List.length_cons, List.length_cons, ih]

mutual

/-- **The verdict on a value is that of the alternatives**, in the order of the text. -/
theorem Plain.accepts_eq (t : TypeExpr) (ht : t.Plain) (v : Value) :
    (Ty.ofDeclared t).unplaced.accepts types st v
      = Ty.acceptsAny types st (Alternative.types t.alternatives) v := by
  cases t with
  | primitive p =>
      rw [alternatives, Alternative.types, Alternative.types, Ty.acceptsAny_singleton]
      rfl
  | named path =>
      rw [alternatives, Alternative.types, Alternative.types, Ty.acceptsAny_singleton]
      rfl
  | list item =>
      rw [alternatives, Alternative.types, Alternative.types, Ty.acceptsAny_singleton,
        Alternative.type, Ty.ofDeclared, Ty.unplaced]
      cases v with
      | list r =>
          have hitem : (Ty.ofDeclared item).unplaced.accepts types st
              = (Ty.union (Alternative.types item.alternatives)).accepts types st := by
            funext v
            rw [Ty.accepts, Plain.accepts_eq item ht v]
          rw [Ty.accepts, Ty.accepts, hitem]
      | _ => rw [Ty.accepts, Ty.accepts] <;> simp
  | record fields =>
      rw [alternatives, Alternative.types, Alternative.types, Ty.acceptsAny_singleton,
        Alternative.type, Ty.ofDeclared_record ht.1, Ty.unplaced]
      cases v with
      | record r =>
          have hlength : (Ty.unplacedFields (Ty.ofDeclaredFields fields)).length
              = (Alternative.fieldTypes (fieldAlternatives fields)).length := by
            rw [length_fieldTypes_fieldAlternatives, Ty.unplacedFields_eq, List.length_map,
              ← List.length_map Prod.fst, Ty.map_fst_ofDeclaredFields, List.length_map]
          rw [Ty.accepts, Ty.accepts, hlength, Plain.acceptsFields_eq fields ht.2]
      | _ => rw [Ty.accepts, Ty.accepts] <;> simp
  | union ts =>
      rw [alternatives, Ty.ofDeclared, Ty.unplaced, Ty.accepts]
      exact Plain.acceptsAny_eq ts ht.2 v

theorem Plain.acceptsFields_eq (fields : List FieldType) (hplain : PlainFields fields)
    (found : Table Value) :
    Ty.acceptsFields types st (Ty.unplacedFields (Ty.ofDeclaredFields fields)) found
      = Ty.acceptsFields types st (Alternative.fieldTypes (fieldAlternatives fields)) found := by
  cases fields with
  | nil => rfl
  | cons field rest =>
      obtain ⟨name, type, span⟩ := field
      obtain ⟨-, htype, hrest⟩ := hplain
      rw [Ty.ofDeclaredFields, Ty.unplacedFields, fieldAlternatives, Alternative.fieldTypes,
        Ty.acceptsFields, Ty.acceptsFields]
      cases found.find? name with
      | none => rfl
      | some v =>
          simp only [Ty.accepts, Plain.accepts_eq type htype v,
            Plain.acceptsFields_eq rest hrest found]

theorem Plain.acceptsAny_eq (ts : List TypeExpr) (hplain : PlainAll ts) (v : Value) :
    Ty.acceptsAny types st (Ty.unplacedAll (Ty.ofDeclaredAll ts)) v
      = Ty.acceptsAny types st (Alternative.types (alternativesAll ts)) v := by
  cases ts with
  | nil => rfl
  | cons type rest =>
      rw [Ty.ofDeclaredAll, Ty.unplacedAll, alternativesAll, Alternative.types_append,
        Ty.acceptsAny_append, Ty.acceptsAny, Plain.accepts_eq type hplain.1 v,
        Plain.acceptsAny_eq rest hplain.2 v]

end

end TypeExpr

end

/-- **The text of a type determines what conforms to it.** If two plain types have one text, their
checked forms are written like this too, and on each value they give the same verdict, or the same error
at a place of their own. -/
theorem text_determines_verdicts (a b : TypeExpr) (ha : a.Plain) (hb : b.Plain) (h : a.text = b.text) :
    (Ty.ofDeclared a).text = a.text ∧ (Ty.ofDeclared b).text = a.text ∧
      ∀ (types : Registry) (st : Store) (v : Value),
        unplacedExcept id ((Ty.ofDeclared a).accepts types st v)
          = unplacedExcept id ((Ty.ofDeclared b).accepts types st v) := by
  refine ⟨Ty.text_ofDeclared a ha, (Ty.text_ofDeclared b hb).trans h.symm, fun types st v => ?_⟩
  rw [← Ty.accepts_unplaced, ← Ty.accepts_unplaced, TypeExpr.Plain.accepts_eq a ha,
    TypeExpr.Plain.accepts_eq b hb, (ha.text_eq_iff hb).mp h]

/-- Two groupings of the alternatives of `Circle | nil | [number | string]`. Where `Circle` stands for
nothing, both fail on a circle at the place where they mention it. -/
theorem circle_unresolved_in_both_groupings :
    let a : TypeExpr := .union [.union [.named ⟨["Circle"], ⟨0, 6⟩⟩, .primitive .nil],
      .list (.union [.primitive .number, .primitive .string])]
    let b : TypeExpr := .union [.named ⟨["Circle"], ⟨1, 7⟩⟩, .union [.primitive .nil,
      .list (.union [.primitive .number, .union [.primitive .string]])]]
    let circle : Value := .object ⟨0, "Circle", none, .empty, default⟩ ⟨0⟩
    let st : Store := { lists := #[], records := #[.empty] }
    a.Plain ∧ b.Plain ∧ a.text = b.text ∧
      (Ty.ofDeclared a).text = a.text ∧ (Ty.ofDeclared b).text = a.text ∧
      (Ty.ofDeclared a).accepts .empty st circle
        = .error (.fault (.unknownType "Circle") (some ⟨0, 6⟩)) ∧
      unplacedExcept id ((Ty.ofDeclared a).accepts .empty st circle)
        = unplacedExcept id ((Ty.ofDeclared b).accepts .empty st circle) := by
  intro a b circle st
  have hword : Text.IsWord "Circle" := by decide
  have hother : ∀ p : Primitive, "Circle" ≠ p.text := by
    intro p
    cases p <;> decide
  have ha : a.Plain := by
    simp [a, TypeExpr.Plain, TypeExpr.PlainAll, TypePath.text, hword, hother]
  have hb : b.Plain := by
    simp [b, TypeExpr.Plain, TypeExpr.PlainAll, TypePath.text, hword, hother]
  have htext : a.text = b.text := by decide
  obtain ⟨hla, hlb, hverdict⟩ := text_determines_verdicts a b ha hb htext
  exact ⟨ha, hb, htext, hla, hlb, rfl, hverdict .empty st circle⟩

end RecordLang
