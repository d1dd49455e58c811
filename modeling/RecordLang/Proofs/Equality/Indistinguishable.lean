import RecordLang.Proofs.Equality
import RecordLang.Proofs.Resemblance

/-!
Equal values are indistinguishable.

Neither types nor patterns tell equal values apart. A number may stand for another that it is equal to,
records may have their fields in different orders, and two containers may share their contents or have
contents of their own; whatever is asked of one value has the answer that it has for the other. That is
so because equality is a resemblance: what stands below equal values is equal again, or identical.

* `Value.Same`: identical or equal, and `isResemblance_same`.
* `equal_values_conform_alike`, `equal_values_match_alike`: the main statements.
-/

namespace RecordLang

/-! ### Equality goes down -/

/-- The values are one value, or equal. A NaN is the same as itself in this sense. -/
def Value.Same (st : Store) (v w : Value) : Prop :=
  v = w ∨ v.equal st w = true

lemma Value.Same.refl (st : Store) (v : Value) : v.Same st v :=
  Or.inl rfl

/-- Equality is a resemblance. A container that is equal to itself by identity only, as one with a NaN
in it, has contents that are identical. -/
lemma isResemblance_same (st : Store) : IsResemblance st st (Value.Same st) := by
  have hitems : ∀ {a b}, a = b ∨ Value.EqualItems st st.containers a b →
      List.Forall₂ (Value.Same st) (st.list a).toList (st.list b).toList := by
    rintro a b (rfl | h)
    · exact List.forall₂_same.mpr fun v _ => .refl st v
    · exact h.imp fun _ _ => Or.inr
  have hfields : ∀ {a b}, a = b ∨ Value.EqualFields st st.containers a b →
      SameFields (Value.Same st) (st.record a) (st.record b) := by
    rintro a b (rfl | h)
    · exact .refl (Value.Same.refl st) _
    · exact fun x => rel_imp (h x) Or.inr
  rintro v w (rfl | hequal)
  · exact Value.resembles_self (fun _ => hitems (Or.inl rfl)) (fun _ => hfields (Or.inl rfl)) v
  -- to the next greater depth, contents are compared to the depth of equality itself
  have hnext : Value.equalWithin st (st.containers + 1) v w = true := Value.equalWithin_succ hequal
  cases Value.equalWithin_iff_alike.mp hnext with
  | number h => exact .number fun z => BEq.congr_right h
  | string s => exact .string s
  | boolean b => exact .boolean b
  | nil => exact .nil
  | list h => exact .list (hitems h)
  | record h => exact .record (hfields h)
  | object hid h => exact .object hid (hfields h)
  | ofClass => exact .ofClass _ _
  | ofGroup => exact .ofGroup _ _
  | function => exact .function _ _
  | lambda => exact .lambda _ _
  | native f => exact .native f f

/-! ### The main statements -/

/-- **Equal values conform to the same types.** For every type, registry and store:

* Two values that are equal get the same verdict, or the same error, in whatever way they share lists
  and records, and however deep they are nested.
* The verdict or error on a value stays the same if the fields of any number of records, at any depth,
  are put in another order. -/
theorem equal_values_conform_alike (types : Registry) (st : Store) (type : Ty) :
    (∀ v w : Value, v.equal st w = true → type.accepts types st v = type.accepts types st w) ∧
    ∀ st', st.Reordered st' → ∀ v, type.accepts types st v = type.accepts types st' v := by
  refine ⟨fun v w h => ?_, fun st' h v => ?_⟩
  · exact (isResemblance_same st).accepts_eq type (Or.inr h)
  · exact h.isResemblance.accepts_eq type rfl

/-- Two records of an object and a zero, in different orders, and the zeros of different sign. Both fail
with the error of the class that is unknown, and so does the first with its fields in the order of the
second. -/
theorem reordered_boxes_fail_alike :
    let box : Class := ⟨0, "Box", none, .empty, default⟩
    let content : Value := .object box ⟨0⟩
    let first : Table Value := .ofList [("x", content), ("y", .number 0)]
    let second : Table Value := .ofList [("y", .number (-0.0)), ("x", content)]
    let swapped : Table Value := .ofList [("y", .number 0), ("x", content)]
    let st : Store := { records := #[.empty, first, second] }
    let st' : Store := { records := #[.empty, swapped, second] }
    let type : Ty := .record [("y", .primitive .number), ("x", .reference ⟨["Ghost"], default⟩)]
    let ghost : Error := .fault (.unknownType "Ghost") (some default)
    (Value.record ⟨1⟩).equal st (.record ⟨2⟩) = true ∧ st.Reordered st' ∧
      type.accepts .empty st (.record ⟨2⟩) = .error ghost ∧
      type.accepts .empty st' (.record ⟨1⟩) = .error ghost := by
  intro box content first second swapped st st' type ghost
  have hequal : (Value.record ⟨1⟩).equal st (.record ⟨2⟩) = true := by decide +kernel
  have hreordered : st.Reordered st' := by
    refine ⟨fun r => rfl, fun r => ?_⟩
    obtain ⟨_ | _ | _ | i⟩ := r
    · exact .refl _
    · exact List.Perm.swap _ _ _
    · exact .refl _
    · exact .refl _
  have hfirst : type.accepts .empty st (.record ⟨1⟩) = .error ghost := rfl
  obtain ⟨hsame, hkept⟩ := equal_values_conform_alike .empty st type
  exact ⟨hequal, hreordered, (hsame _ _ hequal).symm.trans hfirst,
    (hkept st' hreordered _).symm.trans hfirst⟩

/-- **Equal values match the same patterns.** For all alternatives, whatever they carry, two equal values
fail with the same error, or choose none, or choose the same alternative; then the bindings have the
same names in the same order, and under each name values that are one value or equal. -/
theorem equal_values_match_alike (types : Registry) (st : Store) {α : Type}
    (alternatives : List (Expr × α)) (v w : Value) (h : v.equal st w = true) :
    SameAnswer (SameChoice (Value.Same st)) (Pattern.first? types st v alternatives)
      (Pattern.first? types st w alternatives) :=
  (isResemblance_same st).first?_sameAnswer alternatives (Or.inr h)

/-- Two records of a list and a zero, in different orders, and the zeros of different sign; the list is one
and the same, and has a NaN in it. Behind an alternative for a one, both choose that for a zero. -/
theorem zeros_choose_same_alternative :
    let first : Table Value := .ofList [("x", .list ⟨0⟩), ("y", .number 0)]
    let second : Table Value := .ofList [("y", .number (-0.0)), ("x", .list ⟨0⟩)]
    let st : Store := { lists := #[#[.number (0.0 / 0.0)]], records := #[first, second] }
    let alternative (x : Float) : Expr := .record
      [("y", .literal (.number x) default), ("x", .identifier "a" default)] default
    let alternatives : List (Expr × Nat) := [(alternative 1, 1), (alternative 0, 0)]
    (Value.record ⟨0⟩).equal st (.record ⟨1⟩) = true ∧
      ∃ v, Pattern.first? .empty st (.record ⟨1⟩) alternatives = .ok (some (0, [("a", v)])) ∧
        Value.Same st (.list ⟨0⟩) v := by
  intro first second st alternative alternatives
  have hequal : (Value.record ⟨0⟩).equal st (.record ⟨1⟩) = true := by decide +kernel
  have hfirst : Pattern.first? .empty st (.record ⟨0⟩) alternatives
      = .ok (some (0, [("a", .list ⟨0⟩)])) := by rfl
  have hsame := equal_values_match_alike .empty st alternatives _ _ hequal
  rw [hfirst] at hsame
  obtain ⟨e, he, -⟩ | ⟨hnone, -⟩ | ⟨x, ⟨n, bs⟩, hx, hsecond, hnumber, hbindings⟩ := hsame.cases
  · cases he
  · cases hnone
  cases hx
  obtain rfl : 0 = n := hnumber
  cases hbindings with
  | @cons _ b _ cs hb hrest =>
      obtain ⟨name, v⟩ := b
      obtain ⟨rfl, hv⟩ : "a" = name ∧ Value.Same st (.list ⟨0⟩) v := hb
      cases hrest
      exact ⟨hequal, v, hsecond, hv⟩

end RecordLang
