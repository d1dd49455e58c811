import RecordLang.Call
import RecordLang.Proofs.Contents
import RecordLang.Proofs.Matching

/-!
What the pure parts of evaluation give.

Operators give values that refer to nothing. Access to fields and items, and matching, give values that
the store holds, or that they were given. So a property of values has to be shown for new values only;
the pure parts of evaluation make none.

* `Value.isAtom`: a value that refers to nothing; operators give no others.
* `holds_of_readField`, `holds_of_readIndex`, `holds_of_pushField`: what is read is held.
* `Shape.contains_eq_of_check`: fields that pass a check are those declared.
* `Pattern.exists_at?_of_match?`, `Pattern.holds_of_match?`: what a match binds is a subvalue of the value
  matched, so it is held, or is that value.
-/

namespace RecordLang

/-- A result of two computations in a row is a result of the second. -/
lemma exists_eq_ok_of_bind {α β : Type} {x : Except Error α} {f : α → Except Error β} {b : β}
    (h : x >>= f = .ok b) : ∃ a, x = .ok a ∧ f a = .ok b := by
  cases x with
  | ok a => exact ⟨a, rfl, h⟩
  | error e => cases h

/-! ### Operators -/

/-- A value that refers to nothing: a number, a string, a truth value, nil or a native function. -/
def Value.isAtom : Value → Bool
  | .number _ | .string _ | .boolean _ | .nil | .native _ => true
  | _ => false

lemma isAtom_of_numeric {l r w : Value} {span : Option Span} {f : Float → Float → Float}
    (h : Operator.numeric l r span f = .ok w) : w.isAtom = true := by
  obtain ⟨a, -, h⟩ := exists_eq_ok_of_bind h
  obtain ⟨b, -, h⟩ := exists_eq_ok_of_bind h
  cases h
  rfl

lemma isAtom_of_ordered {l r w : Value} {span : Option Span} {wanted : Ordering → Bool}
    (h : Operator.ordered l r span wanted = .ok w) : w.isAtom = true := by
  unfold Operator.ordered at h
  split at h
  · cases h
    rfl
  · obtain ⟨a, -, h⟩ := exists_eq_ok_of_bind h
    obtain ⟨b, -, h⟩ := exists_eq_ok_of_bind h
    cases h
    rfl

lemma isAtom_of_binary {st : Store} {op : BinaryOp} {l r w : Value} {span : Span}
    (h : Operator.binary st op l r span = .ok w) : w.isAtom = true := by
  cases op with
  | add =>
      have hadd : Operator.add l r (some span) = .ok w := h
      unfold Operator.add at hadd
      split at hadd
      · obtain ⟨t, -, hadd⟩ := exists_eq_ok_of_bind hadd
        cases hadd
        rfl
      · exact isAtom_of_numeric hadd
  | sub | mul | div | pow => exact isAtom_of_numeric h
  | eq | ne =>
      cases h
      rfl
  | lt | le | gt | ge => exact isAtom_of_ordered h

lemma isAtom_of_unary {op : UnaryOp} {v w : Value} {span : Span}
    (h : Operator.unary op v span = .ok w) : w.isAtom = true := by
  cases op with
  | neg | not =>
      cases v <;> cases h
      rfl
  | factorial =>
      obtain ⟨x, -, h⟩ := exists_eq_ok_of_bind h
      obtain ⟨y, -, h⟩ := exists_eq_ok_of_bind h
      cases h
      rfl

/-! ### Access -/

section

variable {st : Store} {w : Value} {name : String}

/-- A field is held; the only other thing to be read is a variant of a group. -/
lemma holds_of_readField {v : Value} {span : Span} (h : readField st v name span = .ok w) :
    st.Holds w ∨ ∃ g c, v = .ofGroup g ∧ g.variants.find? name = some c ∧ w = .ofClass c := by
  cases v with
  | record r | object c r =>
      simp only [readField] at h
      split at h
      · next hfield =>
          cases h
          exact Or.inl (.record r name hfield)
      · cases h
  | ofGroup g =>
      simp only [readField] at h
      split at h
      · next c hvariant =>
          cases h
          exact Or.inr ⟨g, c, rfl, hvariant, rfl⟩
      · cases h
  | _ => cases h

lemma holds_of_readIndex {target position : Value} {span : Span}
    (h : readIndex st target position span = .ok w) : st.Holds w := by
  obtain ⟨r, -, h⟩ := exists_eq_ok_of_bind h
  obtain ⟨x, -, h⟩ := exists_eq_ok_of_bind h
  dsimp only at h
  split at h
  · next hitem =>
      cases h
      split at hitem
      · exact .list r (Array.mem_of_getElem? hitem)
      · cases hitem
  · cases h

lemma holds_of_pushField {r : RecordRef} {span : Option Span}
    (h : Native.pushField (st.record r) name span = .ok w) : st.Holds w := by
  rw [Native.pushField] at h
  split at h
  · next hfield =>
      cases h
      exact .record r name hfield
  · cases h

end

/-! ### Checked fields -/

/-- Fields that pass the check of a shape are those that it declares. -/
lemma Shape.contains_eq_of_check {types : Registry} {st : Store} {shape : Shape} {found : Table Value}
    {owner : String} {span : Option Span} (h : shape.check types st found owner span = .ok ())
    (x : String) : found.contains x = shape.contains x := by
  rw [Shape.check] at h
  split at h
  · cases h
  · next hmissing =>
      split at h
      · cases h
      · next hunexpected =>
          have hdeclared : shape.contains x = true → found.contains x = true := by
            intro hx
            have hkey : x ∈ shape.keys := (Table.find?_isSome shape x).mp hx
            simpa using List.find?_eq_none.mp hmissing x hkey
          have hfound : found.contains x = true → shape.contains x = true := by
            intro hx
            have hkey : x ∈ found.keys := (Table.find?_isSome found x).mp hx
            simpa using List.find?_eq_none.mp hunexpected x hkey
          exact Bool.eq_iff_iff.mpr ⟨hfound, hdeclared⟩

/-! ### Matches -/

/-- A subvalue is held, or is the value itself. -/
lemma Value.holds_of_at? {st : Store} {v w : Value} {path : List String} (h : v.at? st path = some w) :
    w = v ∨ st.Holds w := by
  induction path generalizing v with
  | nil => exact Or.inl (by simpa [Value.at?] using h.symm)
  | cons name path ih =>
      cases hf : v.field? st name with
      | none =>
          rw [Value.at?_cons_none hf] at h
          exact absurd h (by simp)
      | some u =>
          have hu : st.Holds u := by
            cases v with
            | record r => exact .record r name hf
            | object c r => exact .record r name hf
            | _ => exact absurd hf (by simp [Value.field?])
          rw [Value.at?_cons hf] at h
          obtain rfl | hw := ih h
          · exact Or.inr hu
          · exact Or.inr hw

/-- What a match binds are subvalues of the value matched. -/
lemma Pattern.exists_at?_of_match? {types : Registry} {st : Store} {p : Expr} {v : Value}
    {bs : Bindings} (h : match? types st p v = .ok (some bs)) :
    ∀ b ∈ bs, ∃ path, v.at? st path = some b.2 := by
  intro b hb
  have hbinds : Binds st p v bs := (match_of_bindings? p (match?_eq_ok_iff.mp h).2).2
  have hmem : (b.1, some b.2) ∈ (binders p).map fun x => (x.1, v.at? st x.2) := by
    rw [← hbinds]
    exact List.mem_map_of_mem hb
  obtain ⟨x, -, hx⟩ := List.mem_map.mp hmem
  exact ⟨x.2, (Prod.mk.inj hx).2⟩

/-- What a match binds is held, or is the value matched. -/
lemma Pattern.holds_of_match? {types : Registry} {st : Store} {p : Expr} {v : Value} {bs : Bindings}
    (h : match? types st p v = .ok (some bs)) : ∀ b ∈ bs, b.2 = v ∨ st.Holds b.2 := by
  intro b hb
  obtain ⟨path, hpath⟩ := Pattern.exists_at?_of_match? h b hb
  exact Value.holds_of_at? hpath

end RecordLang
