import RecordLang.Proofs.Coupling.Reading
import RecordLang.Proofs.Frames
import RecordLang.Proofs.Results

/-!
Regions of the store.

Evaluation cannot invent a reference: whatever it finds hangs on a value it was given, on a frame of the
scope it runs in, or is made on the way. A region is a set of frames, lists and records that is closed
in this sense, so evaluation that starts inside a region stays inside it. What lies outside may differ
from one run to another without being noticed.

* `Region`, `Region.Has`: a part of the store, and the values that refer to nothing else.
* `Region.Closed`: what stands in the region refers to nothing outside of it, and everything that is
  still to be made belongs to it.
* `Region.Closed.bind`, `Region.Closed.append` and others: the steps that change the store keep a region
  closed.
* `Region.Closed.has_readField`, `Region.Closed.has_match?` and others: what is read in a region belongs
  to it.
* `Store.AgreesOutside`: two stores that differ in the bindings of some frames at most.
-/

namespace RecordLang

/-! ### Regions -/

/-- A part of the store: some of its frames, lists and records. -/
structure Region where
  frames : Set FrameRef
  lists : Set ListRef
  records : Set RecordRef

namespace Region

/-- The whole store. -/
def all : Region :=
  ⟨Set.univ, Set.univ, Set.univ⟩

/-- All frames of the scope belong to the region. -/
def HasScope (R : Region) (scope : Scope) : Prop :=
  ∀ r ∈ scope.frames, r ∈ R.frames

/-- The value refers to nothing outside the region. -/
def Has (R : Region) : Value → Prop
  | .list r => r ∈ R.lists
  | .record r => r ∈ R.records
  | .object _ r => r ∈ R.records
  | .function f => R.HasScope f.scope
  | .lambda f => R.HasScope f.scope
  | _ => True

/-- All values of the table belong to the region. -/
def HasTable (R : Region) (t : Table Value) : Prop :=
  ∀ x v, t.find? x = some v → R.Has v

/-- What stands in the region belongs to it, and so does everything that does not exist yet. -/
structure Closed (R : Region) (st : Store) : Prop where
  frame : ∀ r ∈ R.frames, R.HasTable (st.frame r)
  list : ∀ r ∈ R.lists, ∀ v ∈ st.list r, R.Has v
  record : ∀ r ∈ R.records, R.HasTable (st.record r)
  newFrame_mem : ∀ r : FrameRef, st.frames.size ≤ r.index → r ∈ R.frames
  newList_mem : ∀ r : ListRef, st.lists.size ≤ r.index → r ∈ R.lists
  newRecord_mem : ∀ r : RecordRef, st.records.size ≤ r.index → r ∈ R.records

section

variable {R : Region}

/-- A value that refers to nothing belongs to every region. -/
lemma has_of_isAtom {v : Value} (h : v.isAtom = true) : R.Has v := by
  cases v with
  | number x | string text | boolean b | nil | native f => trivial
  | _ => cases h

/-- A class or a group belongs to every region. -/
lemma has_toValue (entry : TypeEntry) : R.Has entry.toValue := by
  cases entry <;> trivial

lemma hasTable_empty : R.HasTable .empty := by
  intro x v hv
  exact absurd hv (by simp)

/-- A table made of pairs has no other values than they. -/
lemma hasTable_ofList {pairs : List (String × Value)} (h : ∀ p ∈ pairs, R.Has p.2) :
    R.HasTable (.ofList pairs) :=
  fun _ _ hv => h _ (Table.mem_of_find?_ofList hv)

lemma hasScope_push {scope : Scope} (h : R.HasScope scope) {r : FrameRef} (hr : r ∈ R.frames) :
    R.HasScope (scope.push r) := by
  intro q hq
  rw [Scope.frames_push] at hq
  obtain rfl | hmem := List.mem_cons.mp hq
  · exact hr
  · exact h q hmem

/-- Every value belongs to the whole store. -/
lemma has_all (v : Value) : all.Has v := by
  cases v with
  | function f | lambda f => exact fun _ _ => Set.mem_univ _
  | list r | record r | object c r => exact Set.mem_univ r
  | _ => trivial

/-- The whole store is closed. -/
lemma closed_all (st : Store) : all.Closed st :=
  ⟨fun _ _ _ v _ => has_all v, fun _ _ v _ => has_all v, fun _ _ _ v _ => has_all v,
    fun _ _ => Set.mem_univ _, fun _ _ => Set.mem_univ _, fun _ _ => Set.mem_univ _⟩

end

/-! ### Steps inside a region -/

namespace Closed

variable {R : Region} {st : Store}

lemma bind (h : R.Closed st) (r : FrameRef) (name : String) {v : Value} (hv : R.Has v) :
    R.Closed (st.bind r name v) := by
  refine ⟨fun q hq x w hw => ?_, h.list, h.record, fun q hq => ?_, h.newList_mem, h.newRecord_mem⟩
  · obtain hold | rfl := Store.find?_frame_bind hw
    · exact h.frame q hq x w hold
    · exact hv
  · rw [Store.size_frames_bind] at hq
    exact h.newFrame_mem q hq

lemma newFrame (h : R.Closed st) {bindings : Frame} (hb : R.HasTable bindings) :
    R.Closed (st.newFrame bindings).2 := by
  refine ⟨fun q hq x w hw => ?_, h.list, h.record, fun q hq => ?_, h.newList_mem, h.newRecord_mem⟩
  · obtain hold | hnew := Store.find?_frame_newFrame hw
    · exact h.frame q hq x w hold
    · exact hb x w hnew
  · have hsize : (st.newFrame bindings).2.frames.size = st.frames.size + 1 := by
      simp [Store.newFrame]
    exact h.newFrame_mem q (by omega)

lemma newList (h : R.Closed st) {items : Array Value} (hi : ∀ v ∈ items, R.Has v) :
    R.Closed (st.newList items).2 := by
  refine ⟨h.frame, fun q hq w hw => ?_, h.record, h.newFrame_mem, fun q hq => ?_, h.newRecord_mem⟩
  · obtain hold | hnew := Store.mem_list_newList hw
    · exact h.list q hq w hold
    · exact hi w hnew
  · have hsize : (st.newList items).2.lists.size = st.lists.size + 1 := by
      simp [Store.newList]
    exact h.newList_mem q (by omega)

lemma newRecord (h : R.Closed st) {fields : Table Value} (hf : R.HasTable fields) :
    R.Closed (st.newRecord fields).2 := by
  refine ⟨h.frame, h.list, fun q hq x w hw => ?_, h.newFrame_mem, h.newList_mem, fun q hq => ?_⟩
  · obtain hold | hnew := Store.find?_record_newRecord hw
    · exact h.record q hq x w hold
    · exact hf x w hnew
  · have hsize : (st.newRecord fields).2.records.size = st.records.size + 1 := by
      simp [Store.newRecord]
    exact h.newRecord_mem q (by omega)

lemma append (h : R.Closed st) (r : ListRef) {item : Value} (hi : R.Has item) :
    R.Closed (st.append r item) := by
  refine ⟨h.frame, fun q hq w hw => ?_, h.record, h.newFrame_mem, fun q hq => ?_, h.newRecord_mem⟩
  · obtain hold | rfl := Store.mem_list_append hw
    · exact h.list q hq w hold
    · exact hi
  · have hsize : (st.append r item).lists.size = st.lists.size := by
      simp [Store.append]
    exact h.newList_mem q (by omega)

lemma nextId (h : R.Closed st) (n : Nat) : R.Closed { st with nextId := n } :=
  ⟨h.frame, h.list, h.record, h.newFrame_mem, h.newList_mem, h.newRecord_mem⟩

/-! ### Reading inside a region -/

lemma has_lookup (h : R.Closed st) {scope : Scope} (hscope : R.HasScope scope) {x : String}
    {v : Value} (hv : st.lookup scope x = some v) : R.Has v := by
  obtain ⟨r, hr, hfind⟩ := List.exists_of_findSome?_eq_some hv
  exact h.frame r (hscope r hr) x v hfind

lemma has_field? (h : R.Closed st) {v w : Value} (hv : R.Has v) {name : String}
    (hw : v.field? st name = some w) : R.Has w := by
  cases v with
  | record r | object c r => exact h.record r hv name w hw
  | _ => exact absurd hw (by simp [Value.field?])

lemma has_at? (h : R.Closed st) {v w : Value} (hv : R.Has v) {path : List String}
    (hw : v.at? st path = some w) : R.Has w := by
  induction path generalizing v with
  | nil =>
      cases hw
      exact hv
  | cons name path ih =>
      cases hf : v.field? st name with
      | none =>
          rw [Value.at?_cons_none hf] at hw
          exact absurd hw (by simp)
      | some u =>
          rw [Value.at?_cons hf] at hw
          exact ih (h.has_field? hv hf) hw

/-- What a match binds belongs to the region of the value matched. -/
lemma has_match? (h : R.Closed st) {types : Registry} {p : Expr} {v : Value} (hv : R.Has v)
    {bs : Bindings} (hmatch : Pattern.match? types st p v = .ok (some bs)) : ∀ b ∈ bs, R.Has b.2 := by
  intro b hb
  obtain ⟨path, hpath⟩ := Pattern.exists_at?_of_match? hmatch b hb
  exact h.has_at? hv hpath

/-- A field belongs to the region of its record. A variant of a group is a class. -/
lemma has_readField (h : R.Closed st) {v w : Value} (hv : R.Has v) {name : String} {span : Span}
    (hw : readField st v name span = .ok w) : R.Has w := by
  cases v with
  | record r | object c r =>
      simp only [readField] at hw
      split at hw
      · next hfield =>
          cases hw
          exact h.record r hv name w hfield
      · cases hw
  | ofGroup g =>
      simp only [readField] at hw
      split at hw
      · cases hw
        trivial
      · cases hw
  | _ => cases hw

lemma has_readIndex (h : R.Closed st) {target position w : Value} (htarget : R.Has target)
    {span : Span} (hw : readIndex st target position span = .ok w) : R.Has w := by
  obtain ⟨r, hr, hw⟩ := exists_eq_ok_of_bind hw
  obtain ⟨x, -, hw⟩ := exists_eq_ok_of_bind hw
  have hlist : r ∈ R.lists := by
    cases target with
    | list r' =>
        cases hr
        exact htarget
    | _ => cases hr
  dsimp only at hw
  split at hw
  · next hitem =>
      cases hw
      split at hitem
      · exact h.list r hlist w (Array.mem_of_getElem? hitem)
      · cases hitem
  · cases hw

lemma has_pushField (h : R.Closed st) {r : RecordRef} (hr : r ∈ R.records) {name : String}
    {span : Option Span} {w : Value} (hw : Native.pushField (st.record r) name span = .ok w) :
    R.Has w := by
  rw [Native.pushField] at hw
  split at hw
  · next hfield =>
      cases hw
      exact h.record r hr name w hfield
  · cases hw

end Closed

end Region

/-! ### Stores that agree outside some frames -/

/-- The stores differ in the bindings of the hidden frames at most. -/
structure Store.AgreesOutside (hidden : Set FrameRef) (st st' : Store) : Prop where
  frame : ∀ r ∉ hidden, st'.frame r = st.frame r
  size_frames : st'.frames.size = st.frames.size
  lists : st'.lists = st.lists
  records : st'.records = st.records
  nextId : st'.nextId = st.nextId

namespace Store.AgreesOutside

variable {hidden : Set FrameRef} {st st' : Store}

lemma refl (hidden : Set FrameRef) (st : Store) : st.AgreesOutside hidden st :=
  ⟨fun _ _ => rfl, rfl, rfl, rfl, rfl⟩

lemma sameContainers (h : st.AgreesOutside hidden st') : st.SameContainers st' :=
  ⟨h.lists, h.records⟩

/-- Stores that agree everywhere are equal. -/
lemma eq (h : st.AgreesOutside ∅ st') : st' = st := by
  obtain ⟨frames, lists, records, nextId⟩ := st
  obtain ⟨frames', lists', records', nextId'⟩ := st'
  obtain ⟨hframe, hsize, rfl, rfl, rfl⟩ := h
  have hframes : frames' = frames := by
    refine Array.ext hsize fun i hi hi' => ?_
    simpa [Store.frame, hi, hi'] using hframe ⟨i⟩ (Set.notMem_empty _)
  rw [hframes]

lemma bind (h : st.AgreesOutside hidden st') (r : FrameRef) (name : String) (v : Value) :
    (st.bind r name v).AgreesOutside hidden (st'.bind r name v) := by
  refine ⟨fun q hq => ?_, ?_, h.lists, h.records, h.nextId⟩
  · by_cases hr : st.HasFrame r
    · have hr' : st'.HasFrame r := by rwa [Store.HasFrame, h.size_frames]
      rw [Store.frame_bind _ _ _ _ _ hr, Store.frame_bind _ _ _ _ _ hr']
      split_ifs with heq
      · rw [h.frame r (heq ▸ hq)]
      · exact h.frame q hq
    · -- no frame is there to be bound in
      have hnone : ∀ {st : Store}, ¬ st.HasFrame r → (st.bind r name v).frame q = st.frame q := by
        intro st hr
        by_cases heq : q = r
        · rw [heq, Store.frame_of_not_hasFrame hr, Store.frame_of_not_hasFrame]
          rwa [Store.HasFrame, Store.size_frames_bind]
        · exact Store.frame_bind_of_ne heq name v
      have hr' : ¬ st'.HasFrame r := by rwa [Store.HasFrame, h.size_frames]
      rw [hnone hr, hnone hr', h.frame q hq]
  · rw [Store.size_frames_bind, Store.size_frames_bind, h.size_frames]

lemma newFrame (h : st.AgreesOutside hidden st') (bindings : Frame) :
    (st.newFrame bindings).2.AgreesOutside hidden (st'.newFrame bindings).2 := by
  refine ⟨fun q hq => ?_, ?_, h.lists, h.records, h.nextId⟩
  · have hframe := h.frame q hq
    simp only [Store.frame, Store.newFrame, Array.getElem?_push, h.size_frames] at hframe ⊢
    split_ifs with hi
    · rfl
    · exact hframe
  · simp [Store.newFrame, h.size_frames]

lemma newList (h : st.AgreesOutside hidden st') (items : Array Value) :
    (st.newList items).2.AgreesOutside hidden (st'.newList items).2 :=
  ⟨h.frame, h.size_frames, congrArg (·.push items) h.lists, h.records, h.nextId⟩

lemma newRecord (h : st.AgreesOutside hidden st') (fields : Table Value) :
    (st.newRecord fields).2.AgreesOutside hidden (st'.newRecord fields).2 :=
  ⟨h.frame, h.size_frames, h.lists, congrArg (·.push fields) h.records, h.nextId⟩

lemma setNextId (h : st.AgreesOutside hidden st') (n : Nat) :
    Store.AgreesOutside hidden { st with nextId := n } { st' with nextId := n } :=
  ⟨h.frame, h.size_frames, h.lists, h.records, rfl⟩

lemma append (h : st.AgreesOutside hidden st') (r : ListRef) (item : Value) :
    (st.append r item).AgreesOutside hidden (st'.append r item) :=
  ⟨h.frame, h.size_frames, congrArg (·.modify r.index (·.push item)) h.lists, h.records, h.nextId⟩

end Store.AgreesOutside

end RecordLang
