import RecordLang.Proofs.ClassIdentity
import RecordLang.Proofs.Membership

/-!
Groups are disjoint unions.

Whether an object belongs to a group is decided in three ways: the reference to the group searches its
variants for the class, the reference to a variant finds a class by name, and so does the pattern of a
variant. The declaration of a group may repeat a name; the last variant of that name counts, and a
search meets it once. So an object belongs to the group exactly if it belongs to the variant of some
name, and then to that of one name only, since variants have different numbers.

* `Group.contains_iff`: searching a group and looking up names find the same classes.
* `mem_names_newGroup_iff`: the names of a new group are those declared.
* `Group.HasUnder`: a value is an object of the variant with a given name.
* `group_is_disjoint_union`: the main statement.
-/

namespace RecordLang

/-! ### Variants of a group -/

/-- The classes of a group are those that it has under some name. -/
lemma Group.contains_iff {g : Group} {c : Class} :
    g.contains c = true ↔ ∃ x d, g.variants.find? x = some d ∧ d.id = c.id := by
  rw [contains, List.any_eq_true]
  constructor
  · rintro ⟨⟨x, d⟩, hmem, hid⟩
    exact ⟨x, d, Table.find?_eq_some_of_mem hmem, beq_iff_eq.mp hid⟩
  · rintro ⟨x, d, hx, hid⟩
    exact ⟨(x, d), Table.mem_of_find?_eq_some hx, beq_iff_eq.mpr hid⟩

lemma map_fst_newVariants (group : String) (decls : List ClassDecl) (st : Store) :
    (Store.newVariants group st decls).1.map Prod.fst = decls.map ClassDecl.name := by
  induction decls generalizing st with
  | nil => rfl
  | cons decl rest ih => simp only [Store.newVariants, List.map_cons, ih]

/-- A new group has a variant under each name that was declared, once or more often. -/
lemma mem_names_newGroup_iff (st : Store) (decl : GroupDecl) (x : String) :
    (∃ c, (st.newGroup decl).1.variants.find? x = some c) ↔ x ∈ decl.variants.map ClassDecl.name := by
  rw [← map_fst_newVariants decl.name decl.variants st, ← Table.contains_ofList, Table.contains,
    Option.isSome_iff_exists]
  rfl

/-- Under different names a new group has different classes. -/
lemma newGroup_names_unique {st : Store} {decl : GroupDecl} {x y : String} {c d : Class}
    (hx : (st.newGroup decl).1.variants.find? x = some c)
    (hy : (st.newGroup decl).1.variants.find? y = some d) (hid : c.id = d.id) : x = y := by
  have hpath := (numbered_newGroup st decl).unique [x] [y] c d hx hy hid
  exact (List.cons.inj hpath).1

/-! ### References and patterns -/

section

variable {types : Registry} {name : String} {g : Group}

lemma Registry.resolve_group (h : types.find? name = some (.ofGroup g)) (span : Span) :
    types.resolve ⟨[name], span⟩ = .ok (.ofGroup g) := by
  simp only [resolve, h]

lemma Registry.resolve_variant (h : types.find? name = some (.ofGroup g)) {x : String} {span : Span}
    {entry : TypeEntry} :
    types.resolve ⟨[name, x], span⟩ = .ok entry ↔
      ∃ c, g.variants.find? x = some c ∧ entry = .ofClass c := by
  simp only [resolve, resolveVariant, h]
  cases g.variants.find? x <;> simp [eq_comm]

variable {st : Store} {v : Value}

/-- The value is an object of the variant with the name `x`. -/
def Group.HasUnder (g : Group) (x : String) (v : Value) : Prop :=
  ∃ c d r, g.variants.find? x = some c ∧ v = .object d r ∧ c.id = d.id

/-- The reference to a variant has the objects of the variant. -/
lemma Ty.member_variant_iff (h : types.find? name = some (.ofGroup g)) {x : String} {span : Span} :
    (Ty.reference ⟨[name, x], span⟩).Member types st v ↔ g.HasUnder x v := by
  simp only [member_reference_iff, Registry.resolve_variant h]
  constructor
  · rintro ⟨_, d, r, ⟨c, hc, rfl⟩, hv, hid⟩
    exact ⟨c, d, r, hc, hv, beq_iff_eq.mp hid⟩
  · rintro ⟨c, d, r, hc, hv, hid⟩
    exact ⟨_, d, r, ⟨c, hc, rfl⟩, hv, beq_iff_eq.mpr hid⟩

lemma Ty.accepts_variant_iff (h : types.find? name = some (.ofGroup g)) {x : String} {span : Span} :
    (Ty.reference ⟨[name, x], span⟩).accepts types st v = .ok true ↔ g.HasUnder x v := by
  have hmember : (Ty.reference ⟨[name, x], span⟩).Member types st v ↔ g.HasUnder x v :=
    member_variant_iff h
  rw [accepts_reference_eq_true_iff, ← hmember, member_reference_iff]

/-- The reference to a group has the objects of all its variants. -/
lemma Ty.member_group_iff (h : types.find? name = some (.ofGroup g)) {span : Span} :
    (Ty.reference ⟨[name], span⟩).Member types st v ↔ ∃ x, g.HasUnder x v := by
  rw [member_reference_iff, Registry.resolve_group h]
  constructor
  · rintro ⟨_, d, r, hentry, hv, hcovers⟩
    cases hentry
    obtain ⟨x, c, hc, hid⟩ := Group.contains_iff.mp hcovers
    exact ⟨x, c, d, r, hc, hv, hid⟩
  · rintro ⟨x, c, d, r, hc, hv, hid⟩
    exact ⟨_, d, r, rfl, hv, Group.contains_iff.mpr ⟨x, c, hc, hid⟩⟩

/-- The pattern of a variant without fields matches its objects. -/
lemma Pattern.match?_variant_iff (h : types.find? name = some (.ofGroup g)) {x : String}
    {span place : Span} :
    (∃ bs, match? types st (.callNamed (.typeRef ⟨[name, x], span⟩) [] place) v = .ok (some bs)) ↔
      g.HasUnder x v := by
  constructor
  · rintro ⟨bs, hbs⟩
    obtain ⟨c, d, r, hc, hv, hid⟩ := eq_object_of_match? rfl hbs
    obtain ⟨_, hfound, hentry⟩ := (Registry.resolve_variant h).mp
      (Registry.resolveClass_eq_ok_iff.mp hc)
    cases hentry
    exact ⟨c, d, r, hfound, hv, hid.symm⟩
  · rintro ⟨c, d, r, hc, hv, hid⟩
    have hclass : types.resolveClass ⟨[name, x], span⟩ = .ok c :=
      Registry.resolveClass_eq_ok_iff.mpr ((Registry.resolve_variant h).mpr ⟨c, hc, rfl⟩)
    refine ⟨[], match?_eq_ok_iff.mpr ⟨rfl, bindings?_class_eq_ok.mpr ⟨c, hclass, ?_⟩⟩⟩
    exact Or.inl ⟨d, r, hv, hid.symm, rfl⟩

/-- The union of references to variants has the objects of these variants. -/
lemma Ty.member_variants_iff (h : types.find? name = some (.ofGroup g)) {names : List String}
    {spans : String → Span} :
    (Ty.union (names.map fun x => .reference ⟨[name, x], spans x⟩)).Member types st v ↔
      ∃ x ∈ names, g.HasUnder x v := by
  rw [member_union_iff]
  simp only [List.mem_map, exists_exists_and_eq_and, member_variant_iff h]

/-- All paths of the union stand for something if they name variants. -/
lemma Ty.resolves_variants (h : types.find? name = some (.ofGroup g)) {names : List String}
    (hnames : ∀ x ∈ names, ∃ c, g.variants.find? x = some c) (spans : String → Span) :
    (Ty.union (names.map fun x => .reference ⟨[name, x], spans x⟩)).Resolves types := by
  intro path hpath
  rw [sites, sitesAll_eq_flatMap, List.mem_flatMap] at hpath
  obtain ⟨_, hmem, hpath⟩ := hpath
  obtain ⟨x, hx, rfl⟩ := List.mem_map.mp hmem
  obtain rfl : path = ⟨[name, x], spans x⟩ := by simpa [sites, TypePath.sites] using hpath
  obtain ⟨c, hc⟩ := hnames x hx
  exact ⟨_, (Registry.resolve_variant h).mpr ⟨c, hc, rfl⟩⟩

end

/-! ### The main statement -/

/-- **A group is the disjoint union of its variants.** Let a name stand for a group that was made from a
declaration, in which variants may have any names, also the same. For every value:

* The reference to the group gives the verdict that the union of the references to the variants gives.
  The union may mention the declared names in any order, and more than once.
* At most one of the references to variants accepts it.
* The reference to a variant accepts it exactly if the pattern of the variant without fields matches. -/
theorem group_is_disjoint_union (made : Store) (decl : GroupDecl) (types : Registry) (name : String)
    (h : types.find? name = some (.ofGroup (made.newGroup decl).1)) (st : Store) (v : Value)
    (span : Span) (spans : String → Span) :
    let variant (x : String) : TypePath := ⟨[name, x], spans x⟩
    (∀ names : List String, (∀ x, x ∈ names ↔ x ∈ decl.variants.map ClassDecl.name) →
      (Ty.reference ⟨[name], span⟩).accepts types st v
        = (Ty.union (names.map fun x => .reference (variant x))).accepts types st v) ∧
    {x | (Ty.reference (variant x)).accepts types st v = .ok true}.Subsingleton ∧
    ∀ x place, (Ty.reference (variant x)).accepts types st v = .ok true ↔
      ∃ bs, Pattern.match? types st (.callNamed (.typeRef (variant x)) [] place) v
        = .ok (some bs) := by
  intro variant
  refine ⟨fun names hnames => ?_, fun x hx y hy => ?_, fun x place => ?_⟩
  · have hdeclared : ∀ x, (∃ c, (made.newGroup decl).1.variants.find? x = some c) ↔ x ∈ names :=
      fun x => (mem_names_newGroup_iff made decl x).trans (hnames x).symm
    have hgroup : (Ty.reference ⟨[name], span⟩).Resolves types := by
      intro path hpath
      obtain rfl : path = ⟨[name], span⟩ := by simpa [Ty.sites, TypePath.sites] using hpath
      exact ⟨_, Registry.resolve_group h span⟩
    have hunion : (Ty.union (names.map fun x => .reference (variant x))).DistinctFields := by
      refine .union fun type htype => ?_
      obtain ⟨x, -, rfl⟩ := List.mem_map.mp htype
      exact .reference _
    refine Ty.accepts_eq_of_member_iff (.reference _) hunion hgroup
      (Ty.resolves_variants h (fun x hx => (hdeclared x).mpr hx) spans) ?_
    rw [Ty.member_group_iff h, Ty.member_variants_iff h]
    constructor
    · rintro ⟨x, c, d, r, hc, hv, hid⟩
      exact ⟨x, (hdeclared x).mp ⟨c, hc⟩, c, d, r, hc, hv, hid⟩
    · rintro ⟨x, -, hx⟩
      exact ⟨x, hx⟩
  · obtain ⟨c, d, r, hc, rfl, hid⟩ := (Ty.accepts_variant_iff h).mp hx
    obtain ⟨c', d', r', hc', hobject, hid'⟩ := (Ty.accepts_variant_iff h).mp hy
    cases hobject
    exact newGroup_names_unique hc hc' (hid.trans hid'.symm)
  · rw [Ty.accepts_variant_iff h, Pattern.match?_variant_iff h]

/-- A group that declares a circle, a square and a circle again, under a name of its own choosing. An
object of the last circle belongs to the group, and of the variants to the circle only; one of the first
circle, which does not count, belongs to none. -/
theorem repeated_circle_belongs_once :
    let circle : ClassDecl := ⟨"Circle", [], default⟩
    let decl : GroupDecl := ⟨"Shape", [circle, ⟨"Square", [], default⟩, circle], default⟩
    let g : Group := (({} : Store).newGroup decl).1
    let types : Registry := .ofList [("Figure", .ofGroup g)]
    let object (id : Nat) : Value := .object ⟨id, "Circle", some "Shape", .empty, default⟩ ⟨0⟩
    let variant (x : String) : TypePath := ⟨["Figure", x], default⟩
    let shapes : Ty := .union (["Square", "Circle"].map fun x => .reference (variant x))
    types.find? "Figure" = some (.ofGroup g) ∧
      shapes.accepts types {} (object 2) = .ok true ∧ shapes.accepts types {} (object 0) = .ok false ∧
      (Ty.reference (variant "Square")).accepts types {} (object 2) ≠ .ok true ∧
      ∃ bs, Pattern.match? types {} (.callNamed (.typeRef (variant "Circle")) [] default) (object 2)
        = .ok (some bs) := by
  intro circle decl g types object variant shapes
  have hgroup : types.find? "Figure" = some (.ofGroup g) := rfl
  have hnames : ∀ x, x ∈ ["Square", "Circle"] ↔ x ∈ decl.variants.map ClassDecl.name := by
    intro x
    simp only [decl, circle, List.map_cons, List.map_nil, List.mem_cons, List.not_mem_nil, or_false]
    tauto
  have hcircle : (Ty.reference (variant "Circle")).accepts types {} (object 2) = .ok true := rfl
  obtain ⟨hlast, hunique, hmatch⟩ :=
    group_is_disjoint_union {} decl types "Figure" hgroup {} (object 2) default fun _ => default
  obtain ⟨hfirst, -⟩ :=
    group_is_disjoint_union {} decl types "Figure" hgroup {} (object 0) default fun _ => default
  refine ⟨hgroup, (hlast _ hnames).symm.trans rfl, (hfirst _ hnames).symm.trans rfl, fun hsquare => ?_,
    (hmatch "Circle" default).mp hcircle⟩
  exact absurd (hunique hsquare hcircle) (by decide)

end RecordLang
