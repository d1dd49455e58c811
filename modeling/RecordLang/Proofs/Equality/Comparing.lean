import RecordLang.Proofs.Containment.Rendering
import RecordLang.Proofs.Equality

/-!
Equality as a partial equivalence.

The laws of equality hold to every depth, so also to the depth that is used for comparing. On a value
from which no cycle is reached this bounded comparison is the unbounded one, since comparing without a
bound has one answer at most. That is what equality means for containers: to be one container, or to
have equal contents.

* `Value.Compares.unique`: comparing ends with one answer.
* `Value.WellNested.compares_iff`: where no cycle is reached it ends, with the answer of `Value.equal`.
* `equality_is_partial_equivalence`: the main statement.
-/

namespace RecordLang

namespace Value

variable {st : Store} {v w : Value}

/-! ### The answer of a comparison -/

/-- Comparing ends with one answer. -/
lemma Compares.unique {answer answer' : Bool} (h : v.Compares st w answer)
    (h' : v.Compares st w answer') : answer = answer' := by
  -- the answer depends on those comparisons only that the second derivation also has made
  induction h generalizing answer' with
  | flat hkind =>
      cases h' with
      | flat => rfl
      | _ => cases hkind
  | @list a b eq _ ih =>
      cases h' with
      | flat hkind => cases hkind
      | list eq' hitems =>
          by_cases hab : a = b
          · simp [hab]
          · rw [equalItems_congr fun p hp => ih hab p hp (hitems hab p hp)]
  | @record a b eq _ ih =>
      cases h' with
      | flat hkind => cases hkind
      | record eq' hfields =>
          by_cases hab : a = b
          · simp [hab]
          · rw [equalFields_congr fun x v w hv hw => ih hab x v w hv hw (hfields hab x v w hv hw)]
  | @object c d a b eq _ ih =>
      cases h' with
      | flat hkind => cases hkind
      | object eq' hfields =>
          by_cases hid : c.id = d.id
          · by_cases hab : a = b
            · simp [hab]
            · rw [equalFields_congr fun x v w hv hw =>
                ih hid hab x v w hv hw (hfields hid hab x v w hv hw)]
          · rw [beq_eq_false_iff_ne.mpr hid, Bool.false_and, Bool.false_and]

/-- Where no cycle is reached, comparing ends, and with the answer of the bounded comparison. -/
lemma WellNested.compares_iff (hv : v.WellNested st) {answer : Bool} :
    v.Compares st w answer ↔ answer = v.equal st w := by
  have hends : v.Compares st w (v.equal st w) := hv.compares_equalWithin hv.rank_le w
  constructor
  · intro h
    exact h.unique hends
  · rintro rfl
    exact hends

end Value

/-- **Equality is a partial equivalence**, in every store: in whatever way lists and records are shared,
and in whatever order fields stand.

* It does not matter which of two values comes first.
* Values that equal a third one equal each other.
* A value equals itself unless it is a NaN, even if a NaN stands inside of it.
* On a value from which no cycle is reached, it is the comparison without a bound on the depth. -/
theorem equality_is_partial_equivalence (st : Store) :
    (∀ v w : Value, v.equal st w = w.equal st v) ∧
    (∀ u v w : Value, u.equal st v = true → v.equal st w = true → u.equal st w = true) ∧
    (∀ v : Value, v.equal st v = !v.isNaN) ∧
    ∀ v : Value, v.WellNested st → ∀ w answer, v.Compares st w answer ↔ answer = v.equal st w := by
  refine ⟨fun v w => ?_, fun u v w => ?_, Value.equalWithin_self st _, fun v hv w answer => ?_⟩
  · exact Bool.eq_iff_iff.mpr ⟨Value.equalWithin_symm, Value.equalWithin_symm⟩
  · exact Value.equalWithin_trans
  · exact hv.compares_iff

/-- Two records share a list that holds a NaN, and have their fields in different orders. They are equal,
although the list differs from another one that also holds a NaN. -/
theorem shared_nan_in_any_order :
    let nan : Value := .number (0.0 / 0.0)
    let st : Store :=
      { lists := #[#[nan], #[nan]],
        records := #[.ofList [("x", .list ⟨0⟩), ("y", .nil)], .ofList [("y", .nil), ("x", .list ⟨0⟩)]] }
    (Value.record ⟨0⟩).WellNested st ∧ (Value.record ⟨0⟩).Compares st (.record ⟨1⟩) true ∧
      (Value.record ⟨1⟩).equal st (.record ⟨0⟩) = true ∧ (Value.list ⟨0⟩).equal st (.list ⟨0⟩) = true ∧
      (Value.list ⟨0⟩).equal st (.list ⟨1⟩) = false ∧ nan.equal st nan = false := by
  intro nan st
  have hflat : ∀ v : Value, v.container? = none → v.WellNested st := by
    intro v hv
    refine .of_inside (fun c hc => ?_) fun c w hc => ?_
    · cases hv.symm.trans hc
    · cases hv.symm.trans hc
  have hlist : (Value.list ⟨0⟩).WellNested st := by
    refine .of_inside ?_ ?_
    · rintro c ⟨⟩
      exact Nat.zero_lt_two
    · rintro c v ⟨⟩ hv
      obtain rfl : v = nan := Array.mem_singleton.mp hv
      exact hflat nan rfl
  have hnested : (Value.record ⟨0⟩).WellNested st := by
    refine .of_inside ?_ ?_
    · rintro c ⟨⟩
      exact Nat.zero_lt_two
    · rintro c v ⟨⟩ ⟨x, hx⟩
      have hmem : (x, v) ∈ [("x", .list ⟨0⟩), ("y", .nil)] := Table.mem_of_find?_eq_some hx
      obtain ⟨-, rfl⟩ | ⟨-, rfl⟩ := by simpa using hmem
      · exact hlist
      · exact hflat .nil rfl
  have hequal : (Value.record ⟨0⟩).equal st (.record ⟨1⟩) = true := by decide +kernel
  obtain ⟨hsymm, -, hself, hcompares⟩ := equality_is_partial_equivalence st
  refine ⟨hnested, (hcompares _ hnested _ _).mpr hequal.symm, (hsymm _ _).trans hequal, hself _, ?_, ?_⟩
  · decide +kernel
  · decide +kernel

end RecordLang
