import RecordLang.Proofs.Growth

/-!
Containment: which lists and records stand inside which others.

Lists and records refer to one another, and lists are changed in place, so a list can come to stand
inside of itself. Making a list or a record closes no cycle: what is put into it exists already, and
nothing refers to it yet. So a cycle takes a `push` of something from which the list can be reached.

* `Container`, `Store.Contains`: lists and records as the nodes of a graph, and its edges.
* `Value.Reaches`: a container is reached from a value, through items and fields.
* `Store.Acyclic`: no container stands inside of itself.
* `Store.Acyclic.of_new`, `Store.Acyclic.of_edge`: a new container and a new edge.
* `containment`: the discipline of pushing nothing from which the list is reached.
-/

namespace RecordLang

/-! ### The graph -/

/-- A list or a record of the store. An object counts as the record of its fields. -/
inductive Container where
  | list (r : ListRef)
  | record (r : RecordRef)
deriving DecidableEq

/-- The list or record that a value refers to. -/
def Value.container? : Value → Option Container
  | .list r => some (.list r)
  | .record r => some (.record r)
  | .object _ r => some (.record r)
  | _ => none

/-- The container exists. -/
def Store.Has (st : Store) : Container → Prop
  | .list r => st.HasList r
  | .record r => st.HasRecord r

/-- The value is an item of the list or stands in a field of the record. -/
def Store.Stands (st : Store) (v : Value) : Container → Prop
  | .list r => v ∈ st.list r
  | .record r => ∃ x, (st.record r).find? x = some v

/-- The second container stands in the first. -/
def Store.Contains (st : Store) (c d : Container) : Prop :=
  ∃ v, st.Stands v c ∧ v.container? = some d

/-- The container is what the value refers to, or is reached from there through items and fields. -/
def Value.Reaches (st : Store) (v : Value) (c : Container) : Prop :=
  ∃ d, v.container? = some d ∧ Relation.ReflTransGen st.Contains d c

/-- No container is reached from what stands in it. -/
def Store.Acyclic (st : Store) : Prop :=
  ∀ c, ¬ Relation.TransGen st.Contains c c

/-- What the value refers to exists. -/
def Store.Knows (st : Store) (v : Value) : Prop :=
  ∀ c, v.container? = some c → st.Has c

/-- What stands in containers exists, and there are no cycles. -/
structure Store.WellNested (st : Store) : Prop where
  closed : ∀ c v, st.Stands v c → st.Knows v
  acyclic : st.Acyclic

namespace Store

/-! ### Growing graphs -/

section

variable {st st' : Store}

/-- **A new container closes no cycle**, since nothing refers to it. -/
lemma Acyclic.of_new (hst : st.Acyclic) (c₀ : Container) (hnew : ¬ st.Has c₀)
    (hedge : ∀ c d, st'.Contains c d → st.Has d ∧ (st.Contains c d ∨ c = c₀)) : st'.Acyclic := by
  -- a path from another container never comes to the new one
  have hold : ∀ {c d}, Relation.TransGen st'.Contains c d → c ≠ c₀ →
      Relation.TransGen st.Contains c d := by
    intro c d hpath
    induction hpath using Relation.TransGen.head_induction_on with
    | single h => exact fun hc => .single ((hedge _ _ h).2.resolve_right hc)
    | head h _ ih =>
        intro hc
        obtain ⟨hhas, hcases⟩ := hedge _ _ h
        refine .head (hcases.resolve_right hc) (ih ?_)
        rintro rfl
        exact hnew hhas
  intro c hcycle
  obtain ⟨d, -, hlast⟩ := Relation.TransGen.tail'_iff.mp hcycle
  refine hst c (hold hcycle ?_)
  rintro rfl
  exact hnew (hedge _ _ hlast).1

/-- **A new edge closes no cycle** if it leads to a container from which its start is not reached. -/
lemma Acyclic.of_edge (hst : st.Acyclic) (c₀ : Container)
    (hedge : ∀ c d, st'.Contains c d →
      st.Contains c d ∨ c = c₀ ∧ ¬ Relation.ReflTransGen st.Contains d c₀) : st'.Acyclic := by
  -- a path is old, or it is old up to the start of the new edge
  have hreach : ∀ {c d}, Relation.ReflTransGen st'.Contains c d →
      Relation.ReflTransGen st.Contains c d ∨ Relation.ReflTransGen st.Contains c c₀ := by
    intro c d hpath
    induction hpath using Relation.ReflTransGen.head_induction_on with
    | refl => exact Or.inl .refl
    | head h _ ih =>
        obtain hold | ⟨rfl, -⟩ := hedge _ _ h
        · exact ih.imp (.head hold) (.head hold)
        · exact Or.inr .refl
  have hpath : ∀ {c d}, Relation.TransGen st'.Contains c d → Relation.TransGen st.Contains c d ∨
      Relation.ReflTransGen st.Contains c c₀ ∧ ∃ b, ¬ Relation.ReflTransGen st.Contains b c₀ ∧
        Relation.ReflTransGen st'.Contains b d := by
    intro c d hpath
    induction hpath using Relation.TransGen.head_induction_on with
    | single h =>
        obtain hold | ⟨rfl, hback⟩ := hedge _ _ h
        · exact Or.inl (.single hold)
        · exact Or.inr ⟨.refl, d, hback, .refl⟩
    | @head a b h hrest ih =>
        obtain hold | ⟨rfl, hback⟩ := hedge _ _ h
        · exact ih.imp (.head hold) fun ⟨hstart, hend⟩ => ⟨.head hold hstart, hend⟩
        · exact Or.inr ⟨.refl, b, hback, hrest.to_reflTransGen⟩
  intro c hcycle
  obtain hold | ⟨hstart, b, hback, hend⟩ := hpath hcycle
  · exact hst c hold
  · exact hback ((hreach hend).elim (·.trans hstart) id)

end

/-! ### What stands in containers after a step -/

section

variable {st : Store} {c : Container} {v : Value}

/-- The same lists and records have the same graph. -/
lemma SameContainers.stands_iff {st' : Store} (h : st.SameContainers st') :
    st'.Stands v c ↔ st.Stands v c := by
  cases c with
  | list r => rw [Stands, Stands, h.list_eq]
  | record r => rw [Stands, Stands, h.record_eq]

lemma SameContainers.has_iff {st' : Store} (h : st.SameContainers st') : st'.Has c ↔ st.Has c := by
  cases c with
  | list r => rw [Has, Has, HasList, HasList, h.lists]
  | record r => rw [Has, Has, HasRecord, HasRecord, h.records]

/-- What stands in containers after a list was made stood there before, or is an item of the new list. -/
lemma stands_newList {items : Array Value} (h : (st.newList items).2.Stands v c) :
    st.Stands v c ∨ c = .list (st.newList items).1 ∧ v ∈ items := by
  cases c with
  | record r => exact Or.inl h
  | list r =>
      simp only [Stands, newList, list, Array.getElem?_push] at h
      split_ifs at h with hindex
      · refine Or.inr ⟨?_, h⟩
        rw [newList, ← hindex]
      · exact Or.inl h

/-- What stands in containers after a record was made stood there before, or in a field of the new
record. -/
lemma stands_newRecord {fields : Table Value} (h : (st.newRecord fields).2.Stands v c) :
    st.Stands v c ∨ c = .record (st.newRecord fields).1 ∧ ∃ x, fields.find? x = some v := by
  cases c with
  | list r => exact Or.inl h
  | record r =>
      simp only [Stands, newRecord, record, Array.getElem?_push] at h
      split_ifs at h with hindex
      · refine Or.inr ⟨?_, h⟩
        rw [newRecord, ← hindex]
      · exact Or.inl h

/-- What stands in containers after an item was added stood there before, or is the item. -/
lemma stands_append {l : ListRef} {item : Value} (h : (st.append l item).Stands v c) :
    st.Stands v c ∨ c = .list l ∧ v = item := by
  cases c with
  | record r => exact Or.inl h
  | list r =>
      by_cases hr : r = l
      · subst hr
        exact (mem_list_append h).imp_right fun heq => ⟨rfl, heq⟩
      · have hindex : ¬ l.index = r.index := fun heq => hr (by cases r; cases l; simp_all)
        simp only [Stands, append, list, Array.getElem?_modify, if_neg hindex] at h
        exact Or.inl h

/-- Growing stores lose no container. -/
lemma GrowsTo.has {st' : Store} (h : st.GrowsTo st') (hc : st.Has c) : st'.Has c := by
  cases c with
  | list r => exact (h.lists r hc).1
  | record r => exact (h.records r hc).1

lemma Knows.mono {st' : Store} (hv : st.Knows v) (h : st.GrowsTo st') : st'.Knows v :=
  fun c hc => h.has (hv c hc)

end

/-! ### Well-nested stores -/

section

variable {st : Store}

/-- Making a container of known values keeps the store well-nested. -/
lemma WellNested.of_new (hst : st.WellNested) {st' : Store} (hgrows : st.GrowsTo st') (c₀ : Container)
    (hnew : ¬ st.Has c₀) (hstands : ∀ c v, st'.Stands v c → st.Stands v c ∨ c = c₀ ∧ st.Knows v) :
    st'.WellNested := by
  have hknows : ∀ c v, st'.Stands v c → st.Knows v :=
    fun c v hv => (hstands c v hv).elim (hst.closed c v) (·.2)
  refine ⟨fun c v hv => (hknows c v hv).mono hgrows, hst.acyclic.of_new c₀ hnew ?_⟩
  rintro c d ⟨v, hv, hd⟩
  exact ⟨hknows c v hv d hd, (hstands c v hv).imp (fun hold => ⟨v, hold, hd⟩) And.left⟩

/-- So does adding a known value from which the list is not reached. -/
lemma WellNested.append (hst : st.WellNested) {l : ListRef} {item : Value} (hitem : st.Knows item)
    (hreach : ¬ item.Reaches st (.list l)) : (st.append l item).WellNested := by
  refine ⟨fun c v hv => ?_, hst.acyclic.of_edge (.list l) ?_⟩
  · obtain hold | ⟨-, rfl⟩ := stands_append hv
    · exact (hst.closed c v hold).mono (.append st l item)
    · exact hitem.mono (.append st l v)
  · rintro c d ⟨v, hv, hd⟩
    obtain hold | ⟨rfl, rfl⟩ := stands_append hv
    · exact Or.inl ⟨v, hold, hd⟩
    · exact Or.inr ⟨rfl, fun hback => hreach ⟨d, hd, hback⟩⟩

end

end Store

/-! ### The discipline -/

/-- Values refer to what exists, and nothing is pushed from which the list is reached. -/
def containment : Discipline where
  value := Store.Knows
  text _ := True
  push st l v := ¬ v.Reaches st (.list l)
  store := Store.WellNested
  types _ := True

/-- Values that are not containers refer to nothing. -/
lemma Store.knows_of_container?_eq_none {st : Store} {v : Value} (h : v.container? = none) :
    st.Knows v := by
  intro c hc
  rw [h] at hc
  cases hc

lemma lawful_containment : containment.Lawful where
  part _ _ := trivial
  inner _ _ := trivial
  body _ _ := trivial
  atom {st v} h := by
    refine Store.knows_of_container?_eq_none ?_
    cases v <;> first | rfl | cases h
  type st entry := by
    cases entry <;> exact Store.knows_of_container?_eq_none rfl
  object := Iff.rfl
  closure {st task v scope} _ hscope _ := by
    refine Store.knows_of_container?_eq_none ?_
    cases v <;> first | rfl | cases hscope
  value_congr h hv c hc := h.has_iff.mpr (hv c hc)
  store_congr {st st'} h hst := by
    refine ⟨fun c v hv d hd => ?_, ?_⟩
    · exact h.has_iff.mpr (hst.closed c v (h.stands_iff.mp hv) d hd)
    · have hcontains : st'.Contains = st.Contains := by
        funext c d
        simp only [Store.Contains, h.stands_iff]
      rw [Store.Acyclic, hcontains]
      exact hst.acyclic
  register _ _ _ _ := trivial
  list {st items} hst hitems := by
    have hgrows : st.GrowsTo (st.newList items).2 :=
      .of_keeps (.newList st items) (.of_records_eq rfl)
    refine ⟨hst.of_new hgrows (.list (st.newList items).1) (Nat.lt_irrefl _) fun c v hv => ?_,
      fun v hv => hv.mono hgrows, ?_⟩
    · exact (Store.stands_newList hv).imp_right fun ⟨hc, hmem⟩ => ⟨hc, hitems v hmem⟩
    · rintro c ⟨⟩
      show st.lists.size < (st.lists.push items).size
      rw [Array.size_push]
      omega
  record {st fields} hst hfields := by
    have hgrows : st.GrowsTo (st.newRecord fields).2 :=
      .of_keeps (.of_lists_eq rfl) (.newRecord st fields)
    refine ⟨hst.of_new hgrows (.record (st.newRecord fields).1) (Nat.lt_irrefl _)
      fun c v hv => ?_, fun v hv => hv.mono hgrows, ?_⟩
    · exact (Store.stands_newRecord hv).imp_right fun ⟨hc, x, hx⟩ => ⟨hc, hfields x v hx⟩
    · rintro c ⟨⟩
      show st.records.size < (st.records.push fields).size
      rw [Array.size_push]
      omega
  append {st l item} hst _ hitem hpush :=
    ⟨hst.append hitem hpush, fun v hv => hv.mono (.append st l item)⟩

end RecordLang
