import RecordLang.Proofs.Errors

/-!
What types mean.

A type stands for a set of values, and conformance asks whether a value is one of them. The answer is
looked for in loops that stop early, over alternatives, fields and items, and paths are resolved on the
way, when an object is met. So a path that stands for nothing may be met or not. Where all paths stand
for something the loops cannot fail, and then it does not show in which order they run.

* `Registry.Refuses`: what can be wrong with a path that stands for nothing.
* `Ty.unresolved_of_accepts`: conformance fails only where an object meets such a path.
* `Ty.Member`: the values of a type, said without loops.
* `Ty.accepts_eq_true_iff_member`: the verdict is membership.
* `Ty.Rearranged`: the same type with alternatives and fields in another order, or alternatives repeated
  or taken out of an inner union.
* `conformance_is_membership`: the main statement.
-/

namespace RecordLang

/-! ### Paths that stand for nothing -/

/-- What is wrong with a path that stands for nothing: its first name is unknown, or is that of a class
or of a group without the variant, or it is no path of one or two names. -/
inductive Registry.Refuses (types : Registry) (path : TypePath) : Error → Prop where
  | unknownType {name : String} {rest : List String} :
      path.segments = name :: rest → path.WellFormed → types.find? name = none →
      Refuses types path (.fault (.unknownType name) (some path.span))
  | notAGroup {name variant : String} {c : Class} :
      path.segments = [name, variant] → types.find? name = some (.ofClass c) →
      Refuses types path (.fault (.notAGroup name) (some path.span))
  | unknownVariant {name variant : String} {g : Group} :
      path.segments = [name, variant] → types.find? name = some (.ofGroup g) →
      g.variants.find? variant = none →
      Refuses types path (.fault (.unknownVariant name variant) (some path.span))
  | nested : ¬ path.WellFormed → Refuses types path (.defect (.nestedTypePath path.text))

lemma Registry.refuses_of_resolve {types : Registry} {path : TypePath} {e : Error}
    (h : types.resolve path = .error e) : types.Refuses path e := by
  rw [resolve] at h
  split at h
  · next name hpath =>
      split at h
      · cases h
      · next hname =>
          cases h
          exact .unknownType hpath (Or.inl (by rw [hpath]; rfl)) hname
  · next name variant hpath =>
      rw [resolveVariant] at h
      cases hname : types.find? name with
      | none =>
          rw [hname] at h
          cases h
          exact .unknownType hpath (Or.inr (by rw [hpath]; rfl)) hname
      | some entry =>
          rw [hname] at h
          cases entry with
          | ofClass c =>
              cases h
              exact .notAGroup hpath hname
          | ofGroup g =>
              cases hvariant : g.variants.find? variant with
              | none =>
                  simp only [hvariant] at h
                  cases h
                  exact .unknownVariant hpath hname hvariant
              | some c =>
                  simp only [hvariant] at h
                  cases h
  · next hname hvariant =>
      cases h
      exact .nested (TypePath.not_wellFormed hname hvariant)

/-- The error is that of a path among the sites. -/
def Registry.Unresolved (types : Registry) (sites : List Site) (e : Error) : Prop :=
  ∃ path, .type path ∈ sites ∧ types.resolve path = .error e

lemma Registry.Unresolved.mono {types : Registry} {sites sites' : List Site} {e : Error}
    (h : types.Unresolved sites e) (hsub : sites ⊆ sites') : types.Unresolved sites' e := by
  obtain ⟨path, hpath, he⟩ := h
  exact ⟨path, hsub hpath, he⟩

/-! ### Loops that stop early -/

section

variable {α β : Type} {e : Error}

/-- Two computations in a row fail if the first does, or else the second. -/
lemma eq_error_or_of_bind {x : Except Error α} {f : α → Except Error β} (h : x >>= f = .error e) :
    x = .error e ∨ ∃ a, x = .ok a ∧ f a = .error e := by
  cases x with
  | ok a => exact Or.inr ⟨a, rfl, h⟩
  | error e' =>
      cases h
      exact Or.inl rfl

/-- A loop over all members says yes if each of them does. -/
lemma allM_eq_true_iff {p : α → Except Error Bool} {as : List α} :
    as.allM p = .ok true ↔ ∀ a ∈ as, p a = .ok true := by
  induction as with
  | nil => simp [List.allM, pure, Except.pure]
  | cons a rest ih =>
      rw [List.forall_mem_cons, ← ih, List.allM]
      rcases p a with e | _ | _ <;> simp [bind, Except.bind, pure, Except.pure]

lemma exists_error_of_allM {p : α → Except Error Bool} {as : List α} (h : as.allM p = .error e) :
    ∃ a ∈ as, p a = .error e := by
  induction as with
  | nil => cases h
  | cons a rest ih =>
      obtain ha | ⟨b, -, h⟩ := eq_error_or_of_bind h
      · exact ⟨a, List.mem_cons_self, ha⟩
      · cases b with
        | false => cases h
        | true =>
            obtain ⟨a', hmem, ha'⟩ := ih h
            exact ⟨a', List.mem_cons_of_mem a hmem, ha'⟩

end

namespace Ty

section

variable {types : Registry} {st : Store}

/-- A value conforms to a reference if it is an object that belongs to what the path stands for. -/
lemma accepts_reference_eq_true_iff {path : TypePath} {v : Value} :
    accepts types st (.reference path) v = .ok true ↔ ∃ entry c r,
      types.resolve path = .ok entry ∧ v = .object c r ∧ entry.covers c = true := by
  cases v with
  | object c r =>
      rw [accepts]
      cases types.resolve path <;> simp [Except.map]
  | _ => simp [accepts]

/-- Fields conform if each is found and conforms. -/
lemma acceptsFields_eq_true_iff {fields : List (String × Ty)} {found : Table Value} :
    acceptsFields types st fields found = .ok true ↔
      ∀ field ∈ fields, ∃ w, found.find? field.1 = some w ∧ field.2.accepts types st w = .ok true := by
  induction fields with
  | nil => simp [acceptsFields]
  | cons field rest ih =>
      obtain ⟨name, type⟩ := field
      rw [List.forall_mem_cons, ← ih, acceptsFields]
      cases found.find? name with
      | none => simp
      | some w =>
          rcases hw : type.accepts types st w with e | _ | _ <;>
            simp [hw, bind, Except.bind]

/-- A record conforms if it has as many fields as declared, and each declared one is found and conforms. -/
lemma accepts_record_eq_true_iff {fields : List (String × Ty)} {r : RecordRef} :
    accepts types st (.record fields) (.record r) = .ok true ↔
      (st.record r).size = fields.length ∧ ∀ field ∈ fields, ∃ w,
        (st.record r).find? field.1 = some w ∧ field.2.accepts types st w = .ok true := by
  rw [accepts, ← acceptsFields_eq_true_iff]
  split_ifs with hsize <;> simp [hsize]

lemma exists_of_acceptsAny {alternatives : List Ty} {v : Value}
    (h : acceptsAny types st alternatives v = .ok true) :
    ∃ type ∈ alternatives, type.accepts types st v = .ok true := by
  induction alternatives with
  | nil => simp [acceptsAny] at h
  | cons type rest ih =>
      rw [acceptsAny] at h
      rcases hv : type.accepts types st v with e | _ | _
      · rw [hv] at h
        cases h
      · rw [hv] at h
        obtain ⟨other, hmem, hother⟩ := ih h
        exact ⟨other, List.mem_cons_of_mem type hmem, hother⟩
      · exact ⟨type, List.mem_cons_self, hv⟩

/-- A value that conforms to one alternative conforms to the union, if none before it fails. -/
lemma acceptsAny_eq_true {alternatives : List Ty} {v : Value} {type : Ty}
    (hok : ∀ other ∈ alternatives, ∃ b, other.accepts types st v = .ok b)
    (hmem : type ∈ alternatives) (h : type.accepts types st v = .ok true) :
    acceptsAny types st alternatives v = .ok true := by
  induction alternatives with
  | nil => exact absurd hmem List.not_mem_nil
  | cons other rest ih =>
      obtain ⟨⟨b, hb⟩, hrest⟩ := List.forall_mem_cons.mp hok
      rw [acceptsAny, hb]
      cases b with
      | true => rfl
      | false =>
          obtain rfl | hmem := List.mem_cons.mp hmem
          · rw [h] at hb
            cases hb
          · exact ih hrest hmem

end

end Ty

/-! ### Errors -/

/-- The value is an object, or a list or plain record in which one stands, at any depth. -/
inductive Value.HasObject (st : Store) : Value → Prop where
  | object {c : Class} {r : RecordRef} : HasObject st (.object c r)
  | item {r : ListRef} {w : Value} : w ∈ st.list r → HasObject st w → HasObject st (.list r)
  | field {r : RecordRef} {x : String} {w : Value} :
      (st.record r).find? x = some w → HasObject st w → HasObject st (.record r)

namespace Ty

section

variable {types : Registry} {st : Store} {e : Error}

mutual

/-- **Why conformance fails**: a path of the type stands for nothing, and the value has an object that
was compared with it. -/
theorem unresolved_of_accepts (type : Ty) {v : Value} (h : type.accepts types st v = .error e) :
    types.Unresolved type.sites e ∧ v.HasObject st := by
  cases type with
  | primitive p => simp [accepts] at h
  | reference path =>
      cases v with
      | object c r =>
          rw [accepts] at h
          cases hpath : types.resolve path with
          | ok entry =>
              rw [hpath] at h
              cases h
          | error e' =>
              rw [hpath] at h
              cases h
              exact ⟨⟨path, by simp [sites, TypePath.sites], hpath⟩, .object⟩
      | _ => cases h
  | record fields =>
      cases v with
      | record r =>
          rw [accepts] at h
          split_ifs at h
          obtain ⟨hpath, x, w, hw, hobject⟩ := unresolved_of_acceptsFields fields h
          exact ⟨hpath, .field hw hobject⟩
      | _ => cases h
  | list item =>
      cases v with
      | list r =>
          rw [accepts] at h
          obtain ⟨w, hw, hitem⟩ := exists_error_of_allM h
          obtain ⟨hpath, hobject⟩ := unresolved_of_accepts item hitem
          exact ⟨hpath, .item (Array.mem_toList_iff.mp hw) hobject⟩
      | _ => cases h
  | union alternatives =>
      rw [accepts] at h
      exact unresolved_of_acceptsAny alternatives h

theorem unresolved_of_acceptsFields (fields : List (String × Ty)) {found : Table Value}
    (h : acceptsFields types st fields found = .error e) :
    types.Unresolved (fieldSites fields) e ∧ ∃ x w, found.find? x = some w ∧ w.HasObject st := by
  cases fields with
  | nil => simp [acceptsFields] at h
  | cons field rest =>
      obtain ⟨name, type⟩ := field
      rw [acceptsFields] at h
      cases hw : found.find? name with
      | none => simp [hw] at h
      | some w =>
          rw [hw] at h
          obtain htype | ⟨b, -, h⟩ := eq_error_or_of_bind h
          · obtain ⟨hpath, hobject⟩ := unresolved_of_accepts type htype
            exact ⟨hpath.mono (List.subset_append_left _ _), name, w, hw, hobject⟩
          · cases b with
            | false => cases h
            | true =>
                obtain ⟨hpath, hfound⟩ := unresolved_of_acceptsFields rest h
                exact ⟨hpath.mono (List.subset_append_right _ _), hfound⟩

theorem unresolved_of_acceptsAny (alternatives : List Ty) {v : Value}
    (h : acceptsAny types st alternatives v = .error e) :
    types.Unresolved (sitesAll alternatives) e ∧ v.HasObject st := by
  cases alternatives with
  | nil => simp [acceptsAny] at h
  | cons type rest =>
      rw [acceptsAny] at h
      obtain htype | ⟨b, -, h⟩ := eq_error_or_of_bind h
      · obtain ⟨hpath, hobject⟩ := unresolved_of_accepts type htype
        exact ⟨hpath.mono (List.subset_append_left _ _), hobject⟩
      · cases b with
        | true => cases h
        | false =>
            obtain ⟨hpath, hobject⟩ := unresolved_of_acceptsAny rest h
            exact ⟨hpath.mono (List.subset_append_right _ _), hobject⟩

end

/-- Every path in the type stands for something. -/
def Resolves (types : Registry) (type : Ty) : Prop :=
  ∀ path, .type path ∈ type.sites → ∃ entry, types.resolve path = .ok entry

/-- If every path stands for something there is always a verdict. -/
lemma Resolves.exists_accepts {type : Ty} (h : type.Resolves types) (v : Value) :
    ∃ b, type.accepts types st v = .ok b := by
  cases hv : type.accepts types st v with
  | ok b => exact ⟨b, rfl⟩
  | error e =>
      obtain ⟨⟨path, hpath, he⟩, -⟩ := unresolved_of_accepts type hv
      obtain ⟨entry, hentry⟩ := h path hpath
      rw [hentry] at he
      cases he

end

/-! ### Membership -/

lemma fieldSites_eq_flatMap (fields : List (String × Ty)) :
    fieldSites fields = fields.flatMap fun field => field.2.sites := by
  induction fields with
  | nil => rfl
  | cons field rest ih =>
      obtain ⟨name, type⟩ := field
      rw [fieldSites, ih, List.flatMap_cons]

lemma sitesAll_eq_flatMap (alternatives : List Ty) :
    sitesAll alternatives = alternatives.flatMap sites := by
  induction alternatives with
  | nil => rfl
  | cons type rest ih => rw [sitesAll, ih, List.flatMap_cons]

/-- The values of a type: those of the kind, for a primitive type; objects of the class or of a variant of
the group that the path stands for; plain records with just the declared fields, each with a value of
its type; lists of values of the type of their items; and for a union the values of its alternatives. -/
inductive Member (types : Registry) (st : Store) : Ty → Value → Prop where
  | any {v : Value} : Member types st (.primitive .any) v
  | number {x : Float} : Member types st (.primitive .number) (.number x)
  | string {s : String} : Member types st (.primitive .string) (.string s)
  | boolean {b : Bool} : Member types st (.primitive .boolean) (.boolean b)
  | nil : Member types st (.primitive .nil) .nil
  | ofClass {path : TypePath} {c d : Class} {r : RecordRef} :
      types.resolve path = .ok (.ofClass c) → d.id = c.id →
      Member types st (.reference path) (.object d r)
  | ofGroup {path : TypePath} {g : Group} {x : String} {c d : Class} {r : RecordRef} :
      types.resolve path = .ok (.ofGroup g) → (x, c) ∈ g.variants.entries → d.id = c.id →
      Member types st (.reference path) (.object d r)
  | record {fields : List (String × Ty)} {r : RecordRef} :
      (∀ x, x ∈ (st.record r).keys ↔ x ∈ fields.map Prod.fst) →
      (∀ field ∈ fields, ∀ w, (st.record r).find? field.1 = some w → Member types st field.2 w) →
      Member types st (.record fields) (.record r)
  | list {item : Ty} {r : ListRef} :
      (∀ w ∈ st.list r, Member types st item w) → Member types st (.list item) (.list r)
  | union {alternatives : List Ty} {type : Ty} {v : Value} :
      type ∈ alternatives → Member types st type v → Member types st (.union alternatives) v

/-- No record type in the type names a field twice. The count of fields that conformance makes relies on
that. -/
inductive DistinctFields : Ty → Prop where
  | primitive (p : Primitive) : DistinctFields (.primitive p)
  | reference (path : TypePath) : DistinctFields (.reference path)
  | record {fields : List (String × Ty)} : (fields.map Prod.fst).Nodup →
      (∀ field ∈ fields, DistinctFields field.2) → DistinctFields (.record fields)
  | list {item : Ty} : DistinctFields item → DistinctFields (.list item)
  | union {alternatives : List Ty} :
      (∀ type ∈ alternatives, DistinctFields type) → DistinctFields (.union alternatives)

lemma distinctFields_record_iff {fields : List (String × Ty)} :
    (Ty.record fields).DistinctFields ↔
      (fields.map Prod.fst).Nodup ∧ ∀ field ∈ fields, field.2.DistinctFields := by
  constructor
  · intro h
    cases h with
    | record hnodup hfields => exact ⟨hnodup, hfields⟩
  · exact fun h => .record h.1 h.2

lemma distinctFields_list_iff {item : Ty} :
    (Ty.list item).DistinctFields ↔ item.DistinctFields := by
  constructor
  · intro h
    cases h with
    | list hitem => exact hitem
  · exact .list

lemma distinctFields_union_iff {alternatives : List Ty} :
    (Ty.union alternatives).DistinctFields ↔ ∀ type ∈ alternatives, type.DistinctFields := by
  constructor
  · intro h
    cases h with
    | union halternatives => exact halternatives
  · exact .union

mutual

/-- Declared types name no field twice, since of repeated fields one is kept. -/
theorem distinctFields_ofDeclared (type : TypeExpr) : (ofDeclared type).DistinctFields := by
  cases type with
  | primitive p => exact .primitive p
  | named path => exact .reference path
  | list item => exact .list (distinctFields_ofDeclared item)
  | record fields =>
      refine .record (Table.distinct _) fun field hfield => ?_
      exact distinctFields_ofDeclaredFields fields field (Table.mem_of_mem_ofList hfield)
  | union alternatives => exact .union (distinctFields_ofDeclaredAll alternatives)

theorem distinctFields_ofDeclaredFields (fields : List FieldType) :
    ∀ field ∈ ofDeclaredFields fields, field.2.DistinctFields := by
  cases fields with
  | nil => simp [ofDeclaredFields]
  | cons field rest =>
      obtain ⟨name, type, span⟩ := field
      rw [ofDeclaredFields, List.forall_mem_cons]
      exact ⟨distinctFields_ofDeclared type, distinctFields_ofDeclaredFields rest⟩

theorem distinctFields_ofDeclaredAll (types : List TypeExpr) :
    ∀ type ∈ ofDeclaredAll types, type.DistinctFields := by
  cases types with
  | nil => simp [ofDeclaredAll]
  | cons type rest =>
      rw [ofDeclaredAll, List.forall_mem_cons]
      exact ⟨distinctFields_ofDeclared type, distinctFields_ofDeclaredAll rest⟩

end

section

variable {types : Registry} {st : Store} {v : Value}

lemma member_primitive_iff {p : Primitive} :
    (Ty.primitive p).Member types st v ↔ p.accepts v = true := by
  constructor
  · intro h
    cases h <;> rfl
  · intro h
    cases p with
    | any => exact .any
    | number => cases v <;> first | exact .number | cases h
    | string => cases v <;> first | exact .string | cases h
    | boolean => cases v <;> first | exact .boolean | cases h
    | nil => cases v <;> first | exact .nil | cases h

lemma member_reference_iff {path : TypePath} :
    (Ty.reference path).Member types st v ↔ ∃ entry c r,
      types.resolve path = .ok entry ∧ v = .object c r ∧ entry.covers c = true := by
  constructor
  · intro h
    cases h with
    | @ofClass _ c d r hpath hid =>
        exact ⟨.ofClass c, d, r, hpath, rfl, beq_iff_eq.mpr hid.symm⟩
    | @ofGroup _ g x c d r hpath hvariant hid =>
        exact ⟨.ofGroup g, d, r, hpath, rfl, List.any_eq_true.mpr ⟨_, hvariant, beq_iff_eq.mpr hid.symm⟩⟩
  · rintro ⟨entry, d, r, hpath, rfl, hcovers⟩
    cases entry with
    | ofClass c => exact .ofClass hpath (beq_iff_eq.mp hcovers).symm
    | ofGroup g =>
        obtain ⟨⟨x, c⟩, hvariant, hid⟩ := List.any_eq_true.mp hcovers
        exact .ofGroup hpath hvariant (beq_iff_eq.mp hid).symm

lemma member_record_iff {fields : List (String × Ty)} :
    (Ty.record fields).Member types st v ↔ ∃ r, v = .record r ∧
      (∀ x, x ∈ (st.record r).keys ↔ x ∈ fields.map Prod.fst) ∧
      ∀ field ∈ fields, ∀ w, (st.record r).find? field.1 = some w → field.2.Member types st w := by
  constructor
  · intro h
    cases h with
    | record hkeys hfields => exact ⟨_, rfl, hkeys, hfields⟩
  · rintro ⟨r, rfl, hkeys, hfields⟩
    exact .record hkeys hfields

lemma member_list_iff {item : Ty} :
    (Ty.list item).Member types st v ↔ ∃ r, v = .list r ∧ ∀ w ∈ st.list r, item.Member types st w := by
  constructor
  · intro h
    cases h with
    | list hitems => exact ⟨_, rfl, hitems⟩
  · rintro ⟨r, rfl, hitems⟩
    exact .list hitems

lemma member_union_iff {alternatives : List Ty} :
    (Ty.union alternatives).Member types st v ↔
      ∃ type ∈ alternatives, type.Member types st v := by
  constructor
  · intro h
    cases h with
    | union hmem htype => exact ⟨_, hmem, htype⟩
  · rintro ⟨type, hmem, htype⟩
    exact .union hmem htype

/-- **The verdict is membership**, for types whose paths all stand for something. -/
theorem accepts_eq_true_iff_member {type : Ty} (hdistinct : type.DistinctFields)
    (hres : type.Resolves types) : type.accepts types st v = .ok true ↔ type.Member types st v := by
  induction hdistinct generalizing v with
  | primitive p => rw [accepts, member_primitive_iff, Except.ok.injEq]
  | reference path => rw [member_reference_iff, accepts_reference_eq_true_iff]
  | @record fields hnodup _ ih =>
      have hfields : ∀ field ∈ fields, ∀ w, field.2.accepts types st w = .ok true ↔
          field.2.Member types st w := by
        intro field hfield w
        refine ih field hfield fun path hpath => hres path ?_
        rw [sites, fieldSites_eq_flatMap]
        exact List.mem_flatMap.mpr ⟨field, hfield, hpath⟩
      rw [member_record_iff]
      cases v with
      | record r =>
          have hvalues : (∀ field ∈ fields, ∀ w, (st.record r).find? field.1 = some w →
              field.2.accepts types st w = .ok true) ↔
              ∀ field ∈ fields, ∀ w, (st.record r).find? field.1 = some w →
                field.2.Member types st w :=
            forall₂_congr fun field hfield => forall_congr' fun w => by rw [hfields field hfield w]
          -- the count of fields and the search for each of them ask for the declared names as keys
          rw [accepts_record_eq_true_iff, ← Table.same_keys_and_iff hnodup, hvalues]
          simp
      | _ => simp [accepts]
  | @list item _ ih =>
      have hitem : ∀ w, item.accepts types st w = .ok true ↔ item.Member types st w :=
        fun w => ih hres
      rw [member_list_iff]
      cases v with
      | list r =>
          rw [accepts, allM_eq_true_iff]
          simp [hitem]
      | _ => simp [accepts]
  | @union alternatives _ ih =>
      have hpaths : ∀ type ∈ alternatives, type.Resolves types := by
        intro type htype path hpath
        refine hres path ?_
        rw [sites, sitesAll_eq_flatMap]
        exact List.mem_flatMap.mpr ⟨type, htype, hpath⟩
      rw [accepts, member_union_iff]
      constructor
      · intro h
        obtain ⟨type, hmem, htype⟩ := exists_of_acceptsAny h
        exact ⟨type, hmem, (ih type hmem (hpaths type hmem)).mp htype⟩
      · rintro ⟨type, hmem, htype⟩
        exact acceptsAny_eq_true (fun other hother => (hpaths other hother).exists_accepts v) hmem
          ((ih type hmem (hpaths type hmem)).mpr htype)

/-- Types with the same values give the same verdicts, if their paths stand for something. -/
lemma accepts_eq_of_member_iff {type type' : Ty} (hdistinct : type.DistinctFields)
    (hdistinct' : type'.DistinctFields) (hres : type.Resolves types) (hres' : type'.Resolves types)
    (h : type.Member types st v ↔ type'.Member types st v) :
    type.accepts types st v = type'.accepts types st v := by
  obtain ⟨b, hb⟩ : ∃ b, type.accepts types st v = .ok b := hres.exists_accepts v
  obtain ⟨b', hb'⟩ : ∃ b, type'.accepts types st v = .ok b := hres'.exists_accepts v
  rw [← accepts_eq_true_iff_member hdistinct hres, ← accepts_eq_true_iff_member hdistinct' hres', hb,
    hb', Except.ok.injEq, Except.ok.injEq] at h
  rw [hb, hb', Bool.eq_iff_iff.mpr h]

end

/-! ### Rearranged types -/

/-- The second type is the first with alternatives of unions reordered, repeated or taken out of an inner
union, and with fields of record types reordered, at any depth. -/
inductive Rearranged : Ty → Ty → Prop where
  | refl (type : Ty) : Rearranged type type
  | symm {type type' : Ty} : Rearranged type type' → Rearranged type' type
  | trans {type type' type'' : Ty} :
      Rearranged type type' → Rearranged type' type'' → Rearranged type type''
  | alternatives {as bs : List Ty} :
      (∀ type, type ∈ as ↔ type ∈ bs) → Rearranged (.union as) (.union bs)
  | flatten {before inner after : List Ty} :
      Rearranged (.union (before ++ .union inner :: after)) (.union (before ++ inner ++ after))
  | fields {fs gs : List (String × Ty)} : fs.Perm gs → Rearranged (.record fs) (.record gs)
  | item {type type' : Ty} : Rearranged type type' → Rearranged (.list type) (.list type')
  | field {before after : List (String × Ty)} {name : String} {type type' : Ty} :
      Rearranged type type' →
      Rearranged (.record (before ++ (name, type) :: after))
        (.record (before ++ (name, type') :: after))
  | alternative {before after : List Ty} {type type' : Ty} : Rearranged type type' →
      Rearranged (.union (before ++ type :: after)) (.union (before ++ type' :: after))

namespace Rearranged

variable {types : Registry} {st : Store} {type type' : Ty}

/-- Rearranging keeps the paths. -/
lemma mem_sites_iff (h : Rearranged type type') (site : Site) :
    site ∈ type.sites ↔ site ∈ type'.sites := by
  induction h with
  | refl => rfl
  | symm _ ih => exact ih.symm
  | trans _ _ ih₁ ih₂ => exact ih₁.trans ih₂
  | alternatives h => simp only [sites, sitesAll_eq_flatMap, List.mem_flatMap, h]
  | flatten => simp [sites, sitesAll_eq_flatMap]
  | fields h => simp only [sites, fieldSites_eq_flatMap, List.mem_flatMap, h.mem_iff]
  | item _ ih => exact ih
  | field _ ih => simp [sites, fieldSites_eq_flatMap, ih]
  | alternative _ ih => simp [sites, sitesAll_eq_flatMap, ih]

/-- Rearranging keeps the values. -/
lemma member_iff (h : Rearranged type type') (v : Value) :
    type.Member types st v ↔ type'.Member types st v := by
  induction h generalizing v with
  | refl => rfl
  | symm _ ih => exact (ih v).symm
  | trans _ _ ih₁ ih₂ => exact (ih₁ v).trans (ih₂ v)
  | alternatives h => simp only [member_union_iff, h]
  | flatten => simp [member_union_iff, or_and_right, exists_or]
  | fields h => simp only [member_record_iff, (h.map Prod.fst).mem_iff, h.mem_iff]
  | item _ ih => simp only [member_list_iff, ih]
  | field _ ih => simp [member_record_iff, ih, or_imp, forall_and]
  | alternative _ ih => simp [member_union_iff, ih, or_and_right, exists_or]

/-- Rearranging repeats no field. -/
lemma distinctFields_iff (h : Rearranged type type') :
    type.DistinctFields ↔ type'.DistinctFields := by
  induction h with
  | refl => rfl
  | symm _ ih => exact ih.symm
  | trans _ _ ih₁ ih₂ => exact ih₁.trans ih₂
  | alternatives h => simp only [distinctFields_union_iff, h]
  | flatten => simp [distinctFields_union_iff, or_imp, forall_and]
  | fields h => simp only [distinctFields_record_iff, (h.map Prod.fst).nodup_iff, h.mem_iff]
  | item _ ih => simp only [distinctFields_list_iff, ih]
  | field _ ih => simp [distinctFields_record_iff, ih, or_imp, forall_and]
  | alternative _ ih => simp [distinctFields_union_iff, ih, or_imp, forall_and]

/-- Rearranging keeps the verdict, if the paths stand for something. -/
lemma accepts_eq (h : Rearranged type type') (hdistinct : type.DistinctFields)
    (hres : type.Resolves types) (v : Value) :
    type'.accepts types st v = type.accepts types st v := by
  have hres' : type'.Resolves types := fun path hpath => hres path ((h.mem_sites_iff _).mpr hpath)
  exact accepts_eq_of_member_iff (h.distinctFields_iff.mp hdistinct) hdistinct hres' hres
    (h.member_iff v).symm

end Rearranged

end Ty

/-! ### The main statement -/

/-- **Conformance is membership.** Types that programs declare name no field twice in a record type. For
a type of this kind whose paths all stand for something, every value gets a verdict; it is that the
value conforms if and only if the value belongs to the type, and it stays the same when alternatives of
unions are reordered, repeated or flattened and fields of record types reordered. And for any type at
all, an error is that of a path in it, and the value is an object or has one in it. -/
theorem conformance_is_membership (types : Registry) (st : Store) (type : Ty) (v : Value) :
    (∀ declared, (Ty.ofDeclared declared).DistinctFields) ∧
    (type.DistinctFields → type.Resolves types →
      (∃ b, type.accepts types st v = .ok b ∧ (b = true ↔ type.Member types st v)) ∧
        ∀ type', type.Rearranged type' → type'.accepts types st v = type.accepts types st v) ∧
    ∀ e, type.accepts types st v = .error e →
      (∃ path, .type path ∈ type.sites ∧ types.resolve path = .error e) ∧ v.HasObject st := by
  refine ⟨Ty.distinctFields_ofDeclared, fun hdistinct hres => ⟨?_, fun type' h => ?_⟩, fun e he => ?_⟩
  · obtain ⟨b, hb⟩ : ∃ b, type.accepts types st v = .ok b := hres.exists_accepts v
    refine ⟨b, hb, ?_⟩
    rw [← Ty.accepts_eq_true_iff_member hdistinct hres, hb, Except.ok.injEq]
  · exact h.accepts_eq hdistinct hres v
  · exact Ty.unresolved_of_accepts type he

/-- A list of a circle and nil belongs to a list type over nested alternatives, and to the flat and
reordered form of that type. Where the group is unknown the circle makes the check fail. -/
theorem circle_and_nil_belong :
    let circle : Class := ⟨0, "Circle", some "Shape", .empty, default⟩
    let shape : Group := ⟨1, "Shape", .ofList [("Circle", circle)], default⟩
    let types : Registry := .ofList [("Shape", .ofGroup shape)]
    let st : Store := { lists := #[#[.object circle ⟨0⟩, .nil]], records := #[.empty] }
    let path : TypePath := ⟨["Shape"], default⟩
    let type : Ty := .list (.union [.primitive .number, .union [.reference path, .primitive .nil]])
    let type' : Ty := .list (.union [.primitive .nil, .reference path, .primitive .number])
    type.Member types st (.list ⟨0⟩) ∧ type'.accepts types st (.list ⟨0⟩) = .ok true ∧
      type.accepts .empty st (.list ⟨0⟩) = .error (.fault (.unknownType "Shape") (some path.span)) ∧
      (Value.list ⟨0⟩).HasObject st := by
  intro circle shape types st path type type'
  have hdistinct : type.DistinctFields := Ty.distinctFields_ofDeclared
    (.list (.union [.primitive .number, .union [.named path, .primitive .nil]]))
  have hres : type.Resolves types := by
    intro other hother
    obtain rfl : other = path := by
      simpa [type, Ty.sites, Ty.sitesAll, TypePath.sites] using hother
    exact ⟨.ofGroup shape, rfl⟩
  have hrearranged : type.Rearranged type' := by
    refine .item (.trans (@Ty.Rearranged.flatten [.primitive .number]
      [.reference path, .primitive .nil] []) (.alternatives fun other => ?_))
    simp only [List.cons_append, List.nil_append, List.mem_cons, List.not_mem_nil, or_false]
    tauto
  have haccepts : type.accepts types st (.list ⟨0⟩) = .ok true := rfl
  have hfails : type.accepts .empty st (.list ⟨0⟩)
      = .error (.fault (.unknownType "Shape") (some path.span)) := rfl
  obtain ⟨-, hverdict, -⟩ := conformance_is_membership types st type (.list ⟨0⟩)
  obtain ⟨⟨b, hb, hmember⟩, hkept⟩ := hverdict hdistinct hres
  obtain rfl : b = true := by simpa [haccepts, eq_comm] using hb
  obtain ⟨-, -, herror⟩ := conformance_is_membership .empty st type (.list ⟨0⟩)
  exact ⟨hmember.mp rfl, (hkept type' hrearranged).trans haccepts, hfails, (herror _ hfails).2⟩

end RecordLang
