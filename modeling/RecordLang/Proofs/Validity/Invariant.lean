import RecordLang.Proofs.Effect.Evaluation
import RecordLang.Proofs.Results
import RecordLang.Proofs.Sites

/-!
Objects stay what their classes ask for.

An object is checked when it is made and never again. Its record does not change after that, so neither
does its set of fields. Lists in its fields may grow, and type names may come to stand for other
classes; but a *plain* type looks at neither, only at records and at values that are not stored, so what
conforms to a plain type once conforms to it for ever.

* `Store.KeepsRecords`, `Effect.keepsRecords`: no record is lost or changed.
* `Ty.isPlain`, `Ty.accepts_eq_of_plain`: plain types, and why their verdicts stay.
* `Class.Fits`: the fields of an object are those of its class, and the plain ones conform.
* `Value.Valid`, `State.Valid`: the invariant. It also says which sites the values of a state keep from
  the text of programs.
* `State.Valid.step`: the invariant along the steps of evaluation.
-/

namespace RecordLang

/-! ### Records stay -/

/-- The record exists. -/
def Store.HasRecord (st : Store) (r : RecordRef) : Prop :=
  r.index < st.records.size

/-- No record is lost or changed. -/
def Store.KeepsRecords (st st' : Store) : Prop :=
  ∀ r, st.HasRecord r → st'.HasRecord r ∧ st'.record r = st.record r

namespace Store.KeepsRecords

lemma refl (st : Store) : st.KeepsRecords st :=
  fun _ h => ⟨h, rfl⟩

lemma trans {st st' st'' : Store} (h : st.KeepsRecords st') (h' : st'.KeepsRecords st'') :
    st.KeepsRecords st'' := by
  intro r hr
  obtain ⟨hr', heq⟩ := h r hr
  obtain ⟨hr'', heq'⟩ := h' r hr'
  exact ⟨hr'', heq'.trans heq⟩

/-- Only the records count. -/
lemma of_records_eq {st st' : Store} (h : st'.records = st.records) : st.KeepsRecords st' := by
  intro r hr
  rw [Store.HasRecord, Store.record, Store.record, h]
  exact ⟨hr, rfl⟩

/-- A new record comes behind those that exist. -/
lemma newRecord (st : Store) (fields : Table Value) : st.KeepsRecords (st.newRecord fields).2 := by
  intro r hr
  have hr' : r.index < st.records.size := hr
  refine ⟨?_, ?_⟩
  · show r.index < (st.records.push fields).size
    rw [Array.size_push]
    omega
  · show ((st.records.push fields)[r.index]?).getD .empty = (st.records[r.index]?).getD .empty
    rw [Array.getElem?_push, if_neg (by omega)]

end Store.KeepsRecords

/-- Evaluation keeps all records as they are. -/
lemma Effect.keepsRecords {names : List String} {s t : State} {i : Option Interrupt}
    (h : Effect names s i t) : s.store.KeepsRecords t.store := by
  induction h with
  | seq _ _ ih₁ ih₂ => exact ih₁.trans ih₂
  | record fields => exact .newRecord _ fields
  | frame _ ih => exact ih
  | scope _ ih => exact ih
  | call _ ih => exact ih
  | callFailed _ ih => exact ih
  | settle _ ih => exact ih
  | _ => exact .of_records_eq rfl

/-! ### Plain types -/

mutual

/-- Whether a type is built of primitive types, record types and unions only. -/
def Ty.isPlain : Ty → Bool
  | .primitive _ => true
  | .reference _ => false
  | .record fields => Ty.arePlainFields fields
  | .list _ => false
  | .union alternatives => Ty.arePlain alternatives

/-- Whether the types of all fields are plain. -/
def Ty.arePlainFields : List (String × Ty) → Bool
  | [] => true
  | (_, type) :: rest => type.isPlain && Ty.arePlainFields rest

/-- Whether all types are plain. -/
def Ty.arePlain : List Ty → Bool
  | [] => true
  | type :: rest => type.isPlain && Ty.arePlain rest

end

/-- A value that is a record is one that exists. -/
def Value.Exists (st : Store) : Value → Prop
  | .record r => st.HasRecord r
  | _ => True

section

variable {st st' : Store} {types types' : Registry}

mutual

/-- The verdict of a plain type depends on records only, so it stays when these do. -/
theorem Ty.accepts_eq_of_plain (hst : ∀ v, st.Holds v → v.Exists st) (hkeep : st.KeepsRecords st')
    (type : Ty) (htype : type.isPlain = true) {v : Value} (hv : v.Exists st) :
    type.accepts types' st' v = type.accepts types st v := by
  cases type with
  | primitive p => rw [Ty.accepts, Ty.accepts]
  | reference path => cases htype
  | list item => cases htype
  | union alternatives => exact Ty.acceptsAny_eq_of_plain hst hkeep alternatives htype hv
  | record fields =>
      cases v with
      | record r =>
          have hfields := Ty.acceptsFields_eq_of_plain hst hkeep fields htype
            fun x w hw => hst w (.record r x hw)
          rw [Ty.accepts, Ty.accepts, (hkeep r hv).2, hfields]
      | _ => rw [Ty.accepts, Ty.accepts] <;> simp

theorem Ty.acceptsFields_eq_of_plain (hst : ∀ v, st.Holds v → v.Exists st)
    (hkeep : st.KeepsRecords st') (fields : List (String × Ty))
    (hfields : Ty.arePlainFields fields = true) {found : Table Value}
    (hfound : ∀ x w, found.find? x = some w → w.Exists st) :
    Ty.acceptsFields types' st' fields found = Ty.acceptsFields types st fields found := by
  cases fields with
  | nil => rw [Ty.acceptsFields, Ty.acceptsFields]
  | cons field rest =>
      obtain ⟨name, type⟩ := field
      obtain ⟨htype, hrest⟩ := Bool.and_eq_true_iff.mp hfields
      have hrest' := Ty.acceptsFields_eq_of_plain hst hkeep rest hrest hfound
      rw [Ty.acceptsFields, Ty.acceptsFields]
      cases hw : found.find? name with
      | none => rfl
      | some w =>
          dsimp only
          rw [Ty.accepts_eq_of_plain hst hkeep type htype (hfound name w hw), hrest']

theorem Ty.acceptsAny_eq_of_plain (hst : ∀ v, st.Holds v → v.Exists st)
    (hkeep : st.KeepsRecords st') (alternatives : List Ty)
    (halternatives : Ty.arePlain alternatives = true) {v : Value} (hv : v.Exists st) :
    Ty.acceptsAny types' st' alternatives v = Ty.acceptsAny types st alternatives v := by
  cases alternatives with
  | nil => rw [Ty.acceptsAny, Ty.acceptsAny]
  | cons type rest =>
      obtain ⟨htype, hrest⟩ := Bool.and_eq_true_iff.mp halternatives
      rw [Ty.acceptsAny, Ty.acceptsAny, Ty.accepts_eq_of_plain hst hkeep type htype hv,
        Ty.acceptsAny_eq_of_plain hst hkeep rest hrest hv]

end

end

/-! ### Objects -/

/-- The fields are those that the class declares, and where the declared type is plain the value
conforms to it, whatever the type names stand for. -/
structure Class.Fits (c : Class) (st : Store) (fields : Table Value) : Prop where
  contains_eq : ∀ x, fields.contains x = c.shape.contains x
  accepts : ∀ x type w, c.shape.find? x = some type → type.isPlain = true →
    fields.find? x = some w → ∀ types, type.accepts types st w = .ok true

lemma Class.Fits.mono {c : Class} {st st' : Store} {fields : Table Value} (h : c.Fits st fields)
    (hst : ∀ v, st.Holds v → v.Exists st) (hkeep : st.KeepsRecords st')
    (hfields : ∀ x w, fields.find? x = some w → w.Exists st) : c.Fits st' fields := by
  refine ⟨h.contains_eq, fun x type w htype hplain hw types => ?_⟩
  rw [Ty.accepts_eq_of_plain hst hkeep type hplain (hfields x w hw)]
  exact h.accepts x type w htype hplain hw types

/-- Fields that pass the check of their types conform to them. -/
lemma Shape.accepts_of_checkTypes {types : Registry} {st : Store} {found : Table Value}
    {owner : String} {span : Option Span} {fields : List (String × Ty)}
    (h : Shape.checkTypes types st found owner span fields = .ok ()) {x : String} {type : Ty}
    (hx : (x, type) ∈ fields) {w : Value} (hw : found.find? x = some w) :
    type.accepts types st w = .ok true := by
  induction fields with
  | nil => exact absurd hx List.not_mem_nil
  | cons field rest ih =>
      obtain ⟨name, type'⟩ := field
      rw [Shape.checkTypes] at h
      cases hv : found.find? name with
      | none =>
          rw [hv] at h
          obtain hhead | htail := List.mem_cons.mp hx
          · cases hhead
            exact absurd (hw.symm.trans hv) (by simp)
          · exact ih h htail
      | some v =>
          rw [hv] at h
          obtain ⟨b, hb, h⟩ := exists_eq_ok_of_bind h
          cases b with
          | false => cases h
          | true =>
              obtain hhead | htail := List.mem_cons.mp hx
              · cases hhead
                cases hw.symm.trans hv
                exact hb
              · exact ih h htail

/-- Fields that pass the check of a class fit it. -/
lemma Class.fits_of_check {c : Class} {types : Registry} {st : Store} {fields : Table Value}
    {owner : String} {span : Option Span} (hst : ∀ v, st.Holds v → v.Exists st)
    (hfields : ∀ x w, fields.find? x = some w → w.Exists st)
    (h : c.shape.check types st fields owner span = .ok ()) : c.Fits st fields := by
  refine ⟨Shape.contains_eq_of_check h, fun x type w htype hplain hw types' => ?_⟩
  have htypes : Shape.checkTypes types st fields owner span c.shape.entries = .ok () := by
    rw [Shape.check] at h
    split at h
    · cases h
    · split at h
      · cases h
      · exact h
  have haccepts := Shape.accepts_of_checkTypes htypes (Table.mem_of_find?_eq_some htype) hw
  -- The check was made with the type names of the moment, but a plain type does not read them.
  rw [Ty.accepts_eq_of_plain hst (.refl st) type hplain (hfields x w hw)]
  exact haccepts

/-! ### The invariant -/

/-- A value made of programs that have no sites but `sites`: records exist, objects fit their classes,
and what keeps text of the program keeps no other sites. -/
def Value.Valid (sites : List Site) (st : Store) : Value → Prop
  | .record r => st.HasRecord r
  | .object c r => st.HasRecord r ∧ c.Fits st (st.record r)
  | .ofClass c => c.shape.sites ⊆ sites
  | .ofGroup g => ∀ x c, g.variants.find? x = some c → c.shape.sites ⊆ sites
  | .function f => Block.armSites f.arms ⊆ sites
  | .lambda f => f.params.sites ⊆ sites ∧ f.body.sites ⊆ sites
  | _ => True

/-- All values in the store and all registered types are valid. -/
structure State.Valid (sites : List Site) (s : State) : Prop where
  held : ∀ v, s.store.Holds v → v.Valid sites s.store
  registered : ∀ x entry, s.types.find? x = some entry → entry.toValue.Valid sites s.store

section

variable {sites : List Site} {st st' : Store}

lemma Value.Valid.exists {v : Value} (h : v.Valid sites st) : v.Exists st := by
  cases v with
  | record r => exact h
  | _ => trivial

/-- A valid value stays valid when records stay, if the values that it can refer to are valid. -/
lemma Value.Valid.mono {v : Value} (h : v.Valid sites st) (hst : ∀ w, st.Holds w → w.Valid sites st)
    (hkeep : st.KeepsRecords st') : v.Valid sites st' := by
  cases v with
  | record r => exact (hkeep r h).1
  | object c r =>
      obtain ⟨hr, hfits⟩ := h
      obtain ⟨hr', heq⟩ := hkeep r hr
      refine ⟨hr', ?_⟩
      rw [heq]
      exact hfits.mono (fun w hw => (hst w hw).exists) hkeep
        fun x w hw => (hst w (.record r x hw)).exists
  | _ => exact h

end

namespace State.Valid

variable {sites : List Site} {s t : State}

/-- What is valid in a valid state is valid after every effect. -/
lemma after {names : List String} {i : Option Interrupt} (hs : s.Valid sites)
    (h : Effect names s i t) {v : Value} (hv : v.Valid sites s.store) : v.Valid sites t.store :=
  hv.mono hs.held h.keepsRecords

/-- A step leaves a valid state if it keeps the records and the types, and if what it stores anew is
valid. -/
lemma step (hs : s.Valid sites) (hkeep : s.store.KeepsRecords t.store) (htypes : t.types = s.types)
    (hnew : ∀ v, t.store.Holds v → s.store.Holds v ∨ v.Valid sites s.store) : t.Valid sites := by
  refine ⟨fun v hv => ?_, fun x entry hx => ?_⟩
  · have hvalid : v.Valid sites s.store := (hnew v hv).elim (hs.held v) id
    exact hvalid.mono hs.held hkeep
  · rw [htypes] at hx
    exact (hs.registered x entry hx).mono hs.held hkeep

/-- Only the store and the types count. -/
lemma of_eq (hs : s.Valid sites) (hstore : t.store = s.store) (htypes : t.types = s.types) :
    t.Valid sites :=
  hs.step (hstore ▸ .refl s.store) htypes fun _ hv => Or.inl (hstore ▸ hv)

lemma bindTop (hs : s.Valid sites) (name : String) {v : Value} (hv : v.Valid sites s.store) :
    (s.bindTop name v).Valid sites := by
  refine hs.step (.of_records_eq rfl) rfl fun w hw => ?_
  obtain hold | rfl := Store.holds_bind hw
  · exact Or.inl hold
  · exact Or.inr hv

lemma enterFrame (hs : s.Valid sites) {bindings : Frame}
    (hb : ∀ x v, bindings.find? x = some v → v.Valid sites s.store) :
    (s.enterFrame bindings).Valid sites := by
  refine hs.step (.of_records_eq rfl) rfl fun w hw => ?_
  obtain hold | ⟨x, hx⟩ := Store.holds_newFrame hw
  · exact Or.inl hold
  · exact Or.inr (hb x w hx)

lemma enterEmpty (hs : s.Valid sites) : (s.enterFrame .empty).Valid sites :=
  hs.enterFrame fun x v hv => absurd hv (by simp)

lemma newList (hs : s.Valid sites) {items : Array Value} (hi : ∀ v ∈ items, v.Valid sites s.store) :
    State.Valid sites { s with store := (s.store.newList items).2 } := by
  refine hs.step (.of_records_eq rfl) rfl fun w hw => ?_
  exact (Store.holds_newList hw).imp_right (hi w)

lemma newRecord (hs : s.Valid sites) {fields : Table Value}
    (hf : ∀ x v, fields.find? x = some v → v.Valid sites s.store) :
    State.Valid sites { s with store := (s.store.newRecord fields).2 } := by
  refine hs.step (.newRecord _ _) rfl fun w hw => ?_
  obtain hold | ⟨x, hx⟩ := Store.holds_newRecord hw
  · exact Or.inl hold
  · exact Or.inr (hf x w hx)

lemma nextId (hs : s.Valid sites) (n : Nat) :
    State.Valid sites { s with store := { s.store with nextId := n } } :=
  hs.step (.of_records_eq rfl) rfl fun _ hw => Or.inl (Store.holds_nextId hw)

lemma append (hs : s.Valid sites) (r : ListRef) {item : Value} (hitem : item.Valid sites s.store) :
    State.Valid sites { s with store := s.store.append r item } := by
  refine hs.step (.of_records_eq rfl) rfl fun w hw => ?_
  obtain hold | rfl := Store.holds_append hw
  · exact Or.inl hold
  · exact Or.inr hitem

lemma register (hs : s.Valid sites) (name : String) {entry : TypeEntry}
    (hentry : entry.toValue.Valid sites s.store) :
    State.Valid sites { s with types := s.types.insert name entry } := by
  refine ⟨hs.held, fun x entry' hx => ?_⟩
  rw [Table.find?_insert] at hx
  split_ifs at hx with hname
  · cases hx
    exact hentry
  · exact hs.registered x entry' hx

end State.Valid

end RecordLang
