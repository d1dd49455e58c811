import Mathlib.Tactic
import RecordLang.Store

/-!
What the store holds.

A value is held if some frame, list or record of the store has it. A step that adds to the store or
changes it makes held at most the values that were handed to it, so a property of all held values is
kept by every step whose own values have it.

* `Table.contains_ofList`, `Table.mem_of_find?_ofList`, `Table.mem_of_mem_ofList`: reading a table made
  of pairs.
* `Table.same_keys_iff`: a table has just the given keys if it has them and not more in number.
* `Store.Holds`: a value stands somewhere in the store.
* `Store.find?_frame_bind`, `Store.mem_list_append` and others: what one frame, list or record has after
  each step.
* `Store.holds_bind`, `Store.holds_newFrame`, `Store.holds_newList`, `Store.holds_newRecord`,
  `Store.holds_append`: what is held after each step.
-/

namespace RecordLang

/-! ### Tables made of pairs -/

namespace Table

variable {α : Type}

lemma contains_insert (t : Table α) (key : String) (a : α) (x : String) :
    (t.insert key a).contains x = true ↔ x = key ∨ t.contains x = true := by
  by_cases h : x = key <;> simp [contains, find?_insert, h]

/-- Writing pairs into a table adds their keys. -/
lemma contains_foldl_insert (pairs : List (String × α)) (t : Table α) (x : String) :
    (pairs.foldl (fun t p => t.insert p.1 p.2) t).contains x = true ↔
      t.contains x = true ∨ x ∈ pairs.map Prod.fst := by
  induction pairs generalizing t with
  | nil => simp
  | cons p rest ih =>
      rw [List.foldl_cons, ih, contains_insert, List.map_cons, List.mem_cons]
      tauto

/-- A table made of pairs has the keys of the pairs. -/
lemma contains_ofList (pairs : List (String × α)) (x : String) :
    (ofList pairs).contains x = true ↔ x ∈ pairs.map Prod.fst := by
  rw [ofList, contains_foldl_insert]
  simp

/-- What stands in a table after pairs were written is old or from a pair. -/
lemma find?_foldl_insert {pairs : List (String × α)} {t : Table α} {x : String} {a : α}
    (h : (pairs.foldl (fun t p => t.insert p.1 p.2) t).find? x = some a) :
    t.find? x = some a ∨ (x, a) ∈ pairs := by
  induction pairs generalizing t with
  | nil => exact Or.inl h
  | cons p rest ih =>
      obtain hfind | hmem := ih h
      · rw [find?_insert] at hfind
        split_ifs at hfind with hx
        · cases hfind
          exact Or.inr (by simp [hx])
        · exact Or.inl hfind
      · exact Or.inr (List.mem_cons_of_mem p hmem)

/-- What stands in a table made of pairs is from a pair. -/
lemma mem_of_find?_ofList {pairs : List (String × α)} {x : String} {a : α}
    (h : (ofList pairs).find? x = some a) : (x, a) ∈ pairs := by
  obtain hempty | hmem := find?_foldl_insert h
  · exact absurd hempty (by simp)
  · exact hmem

/-- An entry list that repeats no key answers with each of its entries. -/
lemma lookup_eq_some_of_mem {es : List (String × α)} (h : (es.map Prod.fst).Nodup) {x : String}
    {a : α} (hmem : (x, a) ∈ es) : es.lookup x = some a := by
  induction es with
  | nil => exact absurd hmem List.not_mem_nil
  | cons e rest ih =>
      obtain ⟨key, b⟩ := e
      rw [List.map_cons, List.nodup_cons] at h
      obtain hhead | htail := List.mem_cons.mp hmem
      · cases hhead
        simp
      · have hne : x ≠ key := by
          rintro rfl
          exact h.1 (List.mem_map.mpr ⟨_, htail, rfl⟩)
        rw [List.lookup_cons, beq_eq_false_iff_ne.mpr hne]
        exact ih h.2 htail

/-- A table answers with each of its entries. -/
lemma find?_eq_some_of_mem {t : Table α} {x : String} {a : α} (h : (x, a) ∈ t.entries) :
    t.find? x = some a :=
  lookup_eq_some_of_mem t.distinct h

/-- What a table answers with is one of its entries. -/
lemma mem_of_find?_eq_some {t : Table α} {x : String} {a : α} (h : t.find? x = some a) :
    (x, a) ∈ t.entries := by
  obtain ⟨before, after, hsplit, -⟩ := List.lookup_eq_some_iff.mp h
  rw [hsplit]
  simp

/-- The entries of a table made of pairs are among the pairs. -/
lemma mem_of_mem_ofList {pairs : List (String × α)} {e : String × α}
    (h : e ∈ (ofList pairs).entries) : e ∈ pairs :=
  mem_of_find?_ofList (find?_eq_some_of_mem h)

/-! ### Counting keys -/

lemma mem_keys_iff {t : Table α} {x : String} : x ∈ t.keys ↔ ∃ a, t.find? x = some a := by
  rw [← find?_isSome, Option.isSome_iff_exists]

/-- A table has just the given names as keys if it has all of them, and no more keys than there are
names. -/
lemma same_keys_iff {t : Table α} {names : List String} (hnames : names.Nodup) :
    (∀ x, x ∈ t.keys ↔ x ∈ names) ↔ t.size = names.length ∧ ∀ x ∈ names, x ∈ t.keys := by
  have hsize : t.keys.length = t.size := List.length_map _
  constructor
  · intro h
    have hperm : t.keys.Perm names := (List.perm_ext_iff_of_nodup t.distinct hnames).mpr h
    exact ⟨hsize.symm.trans hperm.length_eq, fun x hx => (h x).mpr hx⟩
  · rintro ⟨hlength, hsubset⟩ x
    have hperm : names.Perm t.keys := (hnames.subperm hsubset).perm_of_length_le (by omega)
    exact hperm.symm.mem_iff

/-- The same for fields with distinct names, of each of which something is asked. -/
lemma same_keys_and_iff {β : Type} {t : Table α} {fields : List (String × β)}
    (hfields : (fields.map Prod.fst).Nodup) {ok : String × β → α → Prop} :
    ((∀ x, x ∈ t.keys ↔ x ∈ fields.map Prod.fst) ∧
        ∀ field ∈ fields, ∀ a, t.find? field.1 = some a → ok field a) ↔
      t.size = fields.length ∧ ∀ field ∈ fields, ∃ a, t.find? field.1 = some a ∧ ok field a := by
  rw [same_keys_iff hfields, List.length_map, List.forall_mem_map, and_assoc]
  refine and_congr_right fun _ => ⟨fun ⟨hkeys, hok⟩ field hfield => ?_, fun h => ⟨?_, ?_⟩⟩
  · obtain ⟨a, ha⟩ := mem_keys_iff.mp (hkeys field hfield)
    exact ⟨a, ha, hok field hfield a ha⟩
  · intro field hfield
    obtain ⟨a, ha, -⟩ := h field hfield
    exact mem_keys_iff.mpr ⟨a, ha⟩
  · intro field hfield a ha
    obtain ⟨b, hb, hok⟩ := h field hfield
    cases ha.symm.trans hb
    exact hok

lemma isSome_eq_of_rel {β : Type} {R : α → β → Prop} {o : Option α} {o' : Option β}
    (h : Option.Rel R o o') : o.isSome = o'.isSome := by
  cases h <;> rfl

/-- Tables that answer for the same names have as many entries. -/
lemma size_eq_of_rel {β : Type} {R : α → β → Prop} {t : Table α} {u : Table β}
    (h : ∀ x, Option.Rel R (t.find? x) (u.find? x)) : t.size = u.size := by
  have hnodup : t.keys.Nodup := t.distinct
  have hlength : t.keys.length = t.size := List.length_map _
  have hkeys : ∀ x, x ∈ u.keys ↔ x ∈ t.keys := by
    intro x
    rw [← find?_isSome, ← find?_isSome, isSome_eq_of_rel (h x)]
  have hsize := ((same_keys_iff hnodup).mp hkeys).1
  omega

/-- The order of entries does not count for what a table answers. -/
lemma find?_eq_of_perm {t u : Table α} (h : t.entries.Perm u.entries) (x : String) :
    t.find? x = u.find? x := by
  refine Option.ext fun a => ⟨fun ha => ?_, fun ha => ?_⟩
  · exact find?_eq_some_of_mem (h.mem_iff.mp (mem_of_find?_eq_some ha))
  · exact find?_eq_some_of_mem (h.mem_iff.mpr (mem_of_find?_eq_some ha))

end Table

/-! ### Held values -/

/-- Some frame, list or record of the store has the value. -/
inductive Store.Holds (st : Store) (v : Value) : Prop where
  | frame (r : FrameRef) (x : String) : (st.frame r).find? x = some v → st.Holds v
  | list (r : ListRef) : v ∈ st.list r → st.Holds v
  | record (r : RecordRef) (x : String) : (st.record r).find? x = some v → st.Holds v

namespace Store

variable {st : Store} {v w : Value}

/-- At the start nothing is held. -/
lemma not_holds_empty : ¬ ({} : Store).Holds v := by
  intro hv
  cases hv with
  | frame r x h => exact absurd h (by simp [Store.frame])
  | list r h => exact absurd h (by simp [Store.list])
  | record r x h => exact absurd h (by simp [Store.record])

/-- A value found under a name is held. -/
lemma holds_of_lookup {scope : Scope} {x : String} (h : st.lookup scope x = some v) :
    st.Holds v := by
  obtain ⟨r, -, hr⟩ := List.exists_of_findSome?_eq_some h
  exact .frame r x hr

lemma holds_nextId {n : Nat} (h : { st with nextId := n }.Holds w) : st.Holds w := by
  cases h with
  | frame r x hr => exact .frame r x hr
  | list r hr => exact .list r hr
  | record r x hr => exact .record r x hr

/-! ### One frame, list or record after a step -/

section

variable {q : FrameRef} {l : ListRef} {x name : String}

/-- What a frame has after a name was bound is old or the value bound. -/
lemma find?_frame_bind {r : FrameRef} (h : ((st.bind r name v).frame q).find? x = some w) :
    (st.frame q).find? x = some w ∨ w = v := by
  simp only [bind, frame, Array.getElem?_modify] at h
  split_ifs at h with hi
  · cases hf : st.frames[q.index]? with
    | none =>
        rw [hf] at h
        exact absurd h (by simp)
    | some bindings =>
        rw [hf, Option.map_some, Option.getD_some, Table.find?_insert] at h
        split_ifs at h with hx
        · cases h
          exact Or.inr rfl
        · exact Or.inl (by simpa [frame, hf] using h)
  · exact Or.inl h

/-- What a frame has after one was added is old or among the new bindings. -/
lemma find?_frame_newFrame {bindings : Frame}
    (h : ((st.newFrame bindings).2.frame q).find? x = some w) :
    (st.frame q).find? x = some w ∨ bindings.find? x = some w := by
  simp only [newFrame, frame, Array.getElem?_push] at h
  split_ifs at h with hi
  · exact Or.inr h
  · exact Or.inl h

/-- What a list has after one was added is old or among the new items. -/
lemma mem_list_newList {items : Array Value} (h : w ∈ (st.newList items).2.list l) :
    w ∈ st.list l ∨ w ∈ items := by
  simp only [newList, list, Array.getElem?_push] at h
  split_ifs at h with hi
  · exact Or.inr h
  · exact Or.inl h

/-- What a record has after one was added is old or among the new fields. -/
lemma find?_record_newRecord {fields : Table Value} {r : RecordRef}
    (h : ((st.newRecord fields).2.record r).find? x = some w) :
    (st.record r).find? x = some w ∨ fields.find? x = some w := by
  simp only [newRecord, record, Array.getElem?_push] at h
  split_ifs at h with hi
  · exact Or.inr h
  · exact Or.inl h

/-- What a list has after an item was added is old or that item. -/
lemma mem_list_append {r : ListRef} (h : w ∈ (st.append r v).list l) : w ∈ st.list l ∨ w = v := by
  simp only [append, list, Array.getElem?_modify] at h
  split_ifs at h with hi
  · cases hf : st.lists[l.index]? with
    | none => simp [hf] at h
    | some items =>
        rw [hf, Option.map_some, Option.getD_some, Array.mem_push] at h
        obtain h | rfl := h
        · exact Or.inl (by simpa [list, hf] using h)
        · exact Or.inr rfl
  · exact Or.inl h

end

/-! ### Held values after a step -/

lemma holds_bind {r : FrameRef} {name : String} (h : (st.bind r name v).Holds w) :
    st.Holds w ∨ w = v := by
  cases h with
  | frame q x hq => exact (find?_frame_bind hq).imp_left (.frame q x)
  | list q hq => exact Or.inl (.list q hq)
  | record q x hq => exact Or.inl (.record q x hq)

lemma holds_newFrame {bindings : Frame} (h : (st.newFrame bindings).2.Holds w) :
    st.Holds w ∨ ∃ x, bindings.find? x = some w := by
  cases h with
  | frame q x hq => exact (find?_frame_newFrame hq).imp (.frame q x) fun hx => ⟨x, hx⟩
  | list q hq => exact Or.inl (.list q hq)
  | record q x hq => exact Or.inl (.record q x hq)

lemma holds_newList {items : Array Value} (h : (st.newList items).2.Holds w) :
    st.Holds w ∨ w ∈ items := by
  cases h with
  | frame q x hq => exact Or.inl (.frame q x hq)
  | list q hq => exact (mem_list_newList hq).imp_left (.list q)
  | record q x hq => exact Or.inl (.record q x hq)

lemma holds_newRecord {fields : Table Value} (h : (st.newRecord fields).2.Holds w) :
    st.Holds w ∨ ∃ x, fields.find? x = some w := by
  cases h with
  | frame q x hq => exact Or.inl (.frame q x hq)
  | list q hq => exact Or.inl (.list q hq)
  | record q x hq => exact (find?_record_newRecord hq).imp (.record q x) fun hx => ⟨x, hx⟩

lemma holds_append {r : ListRef} (h : (st.append r v).Holds w) : st.Holds w ∨ w = v := by
  cases h with
  | frame q x hq => exact Or.inl (.frame q x hq)
  | list q hq => exact (mem_list_append hq).imp_left (.list q)
  | record q x hq => exact Or.inl (.record q x hq)

end Store

end RecordLang
