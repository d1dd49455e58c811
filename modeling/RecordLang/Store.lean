import RecordLang.Value

/-!
The store: every frame, list and record that has been made.

Things are only added, never removed. A frame changes when a name is bound in it, a list when an item
is pushed; a record never changes. The store also hands out the numbers that tell classes, groups and
functions apart.

* `Store.newFrame`, `Store.newList`, `Store.newRecord`, `Store.newId`: adding a thing.
* `Store.bind`, `Store.append`: the two ways in which an existing thing changes.
* `Store.lookup`: what a name stands for in a scope.
* `Store.frame_bind`, `Store.list_append`: what a change does to each frame and each list.
-/

namespace RecordLang

/-- The bindings of a frame. -/
abbrev Frame := Table Value

/-- All frames, lists and records, and the next free number for a definition. -/
structure Store where
  frames : Array Frame := #[]
  lists : Array (Array Value) := #[]
  records : Array (Table Value) := #[]
  nextId : Nat := 0

namespace Store

/-! ### Reading -/

/-- The bindings of a frame. -/
def frame (st : Store) (r : FrameRef) : Frame :=
  (st.frames[r.index]?).getD .empty

/-- The items of a list. -/
def list (st : Store) (r : ListRef) : Array Value :=
  (st.lists[r.index]?).getD #[]

/-- The fields of a record. -/
def record (st : Store) (r : RecordRef) : Table Value :=
  (st.records[r.index]?).getD .empty

/-- What a name stands for in a scope: its binding in the innermost frame that has one. -/
def lookup (st : Store) (scope : Scope) (name : String) : Option Value :=
  scope.frames.findSome? fun r => (st.frame r).find? name

/-- The number of lists and records. No chain of distinct containers is longer. -/
def containers (st : Store) : Nat :=
  st.lists.size + st.records.size

/-! ### Adding -/

/-- A new frame with the given bindings. -/
def newFrame (st : Store) (bindings : Frame) : FrameRef × Store :=
  (⟨st.frames.size⟩, { st with frames := st.frames.push bindings })

/-- A new list with the given items. -/
def newList (st : Store) (items : Array Value) : ListRef × Store :=
  (⟨st.lists.size⟩, { st with lists := st.lists.push items })

/-- A new record with the given fields. -/
def newRecord (st : Store) (fields : Table Value) : RecordRef × Store :=
  (⟨st.records.size⟩, { st with records := st.records.push fields })

/-- A number not handed out before. -/
def newId (st : Store) : Nat × Store :=
  (st.nextId, { st with nextId := st.nextId + 1 })

/-- A new class for a declaration. -/
def newClass (st : Store) (decl : ClassDecl) (group : Option String) : Class × Store :=
  let (id, st) := st.newId
  ({ id, name := decl.name, group, shape := .ofFields decl.fields, span := decl.span }, st)

/-- New classes for the variants of a group, by name. -/
def newVariants (group : String) : Store → List ClassDecl → List (String × Class) × Store
  | st, [] => ([], st)
  | st, decl :: rest =>
      let (c, st) := st.newClass decl (some group)
      let (cs, st) := newVariants group st rest
      ((decl.name, c) :: cs, st)

/-- A new group for a declaration, with a new class for every variant. -/
def newGroup (st : Store) (decl : GroupDecl) : Group × Store :=
  let (variants, st) := newVariants decl.name st decl.variants
  let (id, st) := st.newId
  ({ id, name := decl.name, variants := .ofList variants, span := decl.span }, st)

/-! ### Changing -/

/-- Binds a name in a frame. -/
def bind (st : Store) (r : FrameRef) (name : String) (v : Value) : Store :=
  { st with frames := st.frames.modify r.index (·.insert name v) }

/-- Adds an item at the end of a list. -/
def append (st : Store) (r : ListRef) (item : Value) : Store :=
  { st with lists := st.lists.modify r.index (·.push item) }

/-! ### What adding and changing leave -/

/-- A new frame has the bindings it was made with. -/
@[simp] theorem frame_newFrame (st : Store) (bindings : Frame) :
    (st.newFrame bindings).2.frame (st.newFrame bindings).1 = bindings := by
  simp [newFrame, frame]

/-- A new list has the items it was made with. -/
@[simp] theorem list_newList (st : Store) (items : Array Value) :
    (st.newList items).2.list (st.newList items).1 = items := by
  simp [newList, list]

/-- A new record has the fields it was made with. -/
@[simp] theorem record_newRecord (st : Store) (fields : Table Value) :
    (st.newRecord fields).2.record (st.newRecord fields).1 = fields := by
  simp [newRecord, record]

/-- Binding a name changes the frame it is bound in and no other. -/
theorem frame_bind (st : Store) (r q : FrameRef) (name : String) (v : Value)
    (h : r.index < st.frames.size) :
    (st.bind r name v).frame q = if q = r then (st.frame r).insert name v else st.frame q := by
  by_cases hq : q = r
  · subst hq
    simp [bind, frame, h, Array.getElem_modify]
  · have hi : ¬ r.index = q.index := fun e => hq (by cases q; cases r; simp_all)
    simp [bind, frame, Array.getElem?_modify, hi, hq]

/-- Adding an item changes the list it is added to and no other. -/
theorem list_append (st : Store) (r q : ListRef) (item : Value)
    (h : r.index < st.lists.size) :
    (st.append r item).list q = if q = r then (st.list r).push item else st.list q := by
  by_cases hq : q = r
  · subst hq
    simp [append, list, h, Array.getElem_modify]
  · have hi : ¬ r.index = q.index := fun e => hq (by cases q; cases r; simp_all)
    simp [append, list, Array.getElem?_modify, hi, hq]

end Store

end RecordLang
