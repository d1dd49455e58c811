import Mathlib.Tactic
import RecordLang.Ty
import RecordLang.Proofs.Contents

/-!
Sites: what an error can point to.

A program text has places, one for each expression, statement, definition and type path, and it has the
type paths themselves. Both survive in the values that evaluation makes of the text: a class keeps the
paths of its field types, a function its body. An error about the program names one of these sites.

* `Site`: a place or a type path.
* `TypeExpr.sites`, `Expr.sites`, `Block.sites`, `Statement.sites`: the sites of each kind of syntax.
* `Ty.sites`, `Shape.sites`: the type paths that a checked type keeps.
* `Shape.sites_ofFields`, `Shape.sites_ofParams`: checked types have no sites but those of the text.
-/

namespace RecordLang

/-- What an error can point to: a place in the program text, or a type path of the text. -/
inductive Site where
  | place (span : Span)
  | type (path : TypePath)

/-- A type path is a site, and so is the place where it stands. -/
def TypePath.sites (path : TypePath) : List Site :=
  [.place path.span, .type path]

/-! ### Declared types -/

mutual

/-- The sites of a declared type. -/
def TypeExpr.sites : TypeExpr → List Site
  | .primitive _ => []
  | .named path => path.sites
  | .list item => item.sites
  | .record fields => TypeExpr.fieldSites fields
  | .union alternatives => TypeExpr.sitesAll alternatives

/-- The sites of the types of declared fields. -/
def TypeExpr.fieldSites : List FieldType → List Site
  | [] => []
  | .mk _ type _ :: rest => type.sites ++ TypeExpr.fieldSites rest

/-- The sites of declared types. -/
def TypeExpr.sitesAll : List TypeExpr → List Site
  | [] => []
  | type :: rest => type.sites ++ TypeExpr.sitesAll rest

end

/-- The sites of the declaration of a class. -/
def ClassDecl.sites (decl : ClassDecl) : List Site :=
  .place decl.span :: decl.fields.flatMap fun field => field.2.sites

/-- The sites of the declaration of a group. -/
def GroupDecl.sites (decl : GroupDecl) : List Site :=
  .place decl.span :: decl.variants.flatMap ClassDecl.sites

/-- The sites of a parameter list. -/
def paramSites (params : List (String × Option TypeExpr)) : List Site :=
  params.flatMap fun param => param.2.elim [] TypeExpr.sites

/-! ### Programs -/

mutual

/-- The sites of an expression, also of one that is read as a pattern. -/
def Expr.sites : Expr → List Site
  | .identifier _ span => [.place span]
  | .typeRef path => path.sites
  | .literal _ span => [.place span]
  | .record fields span => .place span :: Expr.fieldSites fields
  | .list items span => .place span :: Expr.sitesAll items
  | .binary _ left right span => .place span :: (left.sites ++ right.sites)
  | .unary _ operand span => .place span :: operand.sites
  | .call callee argument span => .place span :: (callee.sites ++ argument.sites)
  | .callNamed callee arguments span => .place span :: (callee.sites ++ Expr.fieldSites arguments)
  | .field base _ span => .place span :: base.sites
  | .index base position span => .place span :: (base.sites ++ position.sites)
  | .select subject arms span => .place span :: (subject.sites ++ Block.armSites arms)
  | .lambda params body span => .place span :: (paramSites params ++ body.sites)

/-- The sites of the expressions of a list. -/
def Expr.sitesAll : List Expr → List Site
  | [] => []
  | e :: rest => e.sites ++ Expr.sitesAll rest

/-- The sites of the expressions of fields. -/
def Expr.fieldSites : List (String × Expr) → List Site
  | [] => []
  | (_, e) :: rest => e.sites ++ Expr.fieldSites rest

/-- The sites of an optional expression. -/
def Expr.optionSites : Option Expr → List Site
  | none => []
  | some e => e.sites

/-- The sites of the arms of a match, patterns included. -/
def Block.armSites : List (Expr × Block) → List Site
  | [] => []
  | (pattern, body) :: rest => pattern.sites ++ body.sites ++ Block.armSites rest

/-- The sites of a block. -/
def Block.sites : Block → List Site
  | .mk statements tail => Statement.sitesAll statements ++ Expr.optionSites tail

/-- The sites of an optional block. -/
def Block.optionSites : Option Block → List Site
  | none => []
  | some b => b.sites

/-- The sites of a statement. -/
def Statement.sites : Statement → List Site
  | .const _ value span => .place span :: value.sites
  | .assign _ value span => .place span :: value.sites
  | .classDef decl => decl.sites
  | .groupDef decl => decl.sites
  | .function _ arms span => .place span :: Block.armSites arms
  | .leave value span => .place span :: Expr.optionSites value
  | .branch condition yes no span =>
      .place span :: (condition.sites ++ yes.sites ++ Block.optionSites no)
  | .log value span => .place span :: value.sites
  | .logType path span => .place span :: path.sites
  | .expression value span => .place span :: value.sites

/-- The sites of statements, so of a program. -/
def Statement.sitesAll : List Statement → List Site
  | [] => []
  | st :: rest => st.sites ++ Statement.sitesAll rest

end

/-- The place of an expression is one of its sites. -/
lemma Expr.place_mem_sites (e : Expr) : .place e.span ∈ e.sites := by
  cases e <;> simp [Expr.span, Expr.sites, TypePath.sites]

/-- Arms have no sites outside of `sites` exactly when no pattern and no block of them has. -/
lemma Block.armSites_subset_iff {arms : List (Expr × Block)} {sites : List Site} :
    Block.armSites arms ⊆ sites ↔ ∀ arm ∈ arms, arm.1.sites ⊆ sites ∧ arm.2.sites ⊆ sites := by
  induction arms with
  | nil => simp [Block.armSites]
  | cons arm rest ih =>
      obtain ⟨pattern, body⟩ := arm
      rw [Block.armSites, List.append_subset, List.append_subset, ih, List.forall_mem_cons]

/-- The sites of the expressions of a list are those of its members. -/
lemma Expr.sites_subset_sitesAll {es : List Expr} {e : Expr} (h : e ∈ es) :
    e.sites ⊆ Expr.sitesAll es := by
  induction es with
  | nil => exact absurd h List.not_mem_nil
  | cons e' rest ih =>
      rw [Expr.sitesAll]
      obtain rfl | hmem := List.mem_cons.mp h
      · exact List.subset_append_left _ _
      · exact List.subset_append_of_subset_right _ (ih hmem)

/-- The sites of the expressions of fields are those of the expressions. -/
lemma Expr.fieldSites_eq (fields : List (String × Expr)) :
    Expr.fieldSites fields = Expr.sitesAll (fields.map Prod.snd) := by
  induction fields with
  | nil => rfl
  | cons field rest ih =>
      obtain ⟨name, e⟩ := field
      rw [Expr.fieldSites, ih, List.map_cons, Expr.sitesAll]

/-! ### Checked types -/

mutual

/-- The sites of a checked type: its references. -/
def Ty.sites : Ty → List Site
  | .primitive _ => []
  | .reference path => path.sites
  | .record fields => Ty.fieldSites fields
  | .list item => item.sites
  | .union alternatives => Ty.sitesAll alternatives

/-- The sites of the types of fields. -/
def Ty.fieldSites : List (String × Ty) → List Site
  | [] => []
  | (_, type) :: rest => type.sites ++ Ty.fieldSites rest

/-- The sites of checked types. -/
def Ty.sitesAll : List Ty → List Site
  | [] => []
  | type :: rest => type.sites ++ Ty.sitesAll rest

end

/-- The sites of the types of a shape. -/
def Shape.sites (shape : Shape) : List Site :=
  Ty.fieldSites shape.entries

/-- Fields have no sites outside of `sites` exactly when none of their types has. -/
lemma Ty.fieldSites_subset_iff {fields : List (String × Ty)} {sites : List Site} :
    Ty.fieldSites fields ⊆ sites ↔ ∀ field ∈ fields, field.2.sites ⊆ sites := by
  induction fields with
  | nil => simp [Ty.fieldSites]
  | cons field rest ih =>
      obtain ⟨name, type⟩ := field
      rw [Ty.fieldSites, List.append_subset, ih, List.forall_mem_cons]

/-- A table made of fields has no sites but those of the fields. -/
lemma Shape.sites_ofList {fields : List (String × Ty)} {sites : List Site}
    (h : ∀ field ∈ fields, field.2.sites ⊆ sites) : Shape.sites (.ofList fields) ⊆ sites := by
  rw [Shape.sites, Ty.fieldSites_subset_iff]
  intro field hfield
  exact h field (Table.mem_of_mem_ofList hfield)

mutual

/-- The checked form of a declared type has no new sites. Of repeated fields only one is kept. -/
theorem Ty.sites_ofDeclared (type : TypeExpr) : (Ty.ofDeclared type).sites ⊆ type.sites := by
  cases type with
  | primitive p => exact List.nil_subset _
  | named path => exact List.Subset.refl _
  | list item => exact Ty.sites_ofDeclared item
  | record fields => exact Shape.sites_ofList (Ty.sites_ofDeclaredFields fields)
  | union alternatives => exact Ty.sites_ofDeclaredAll alternatives

theorem Ty.sites_ofDeclaredFields (fields : List FieldType) :
    ∀ field ∈ Ty.ofDeclaredFields fields, field.2.sites ⊆ TypeExpr.fieldSites fields := by
  cases fields with
  | nil => simp [Ty.ofDeclaredFields]
  | cons field rest =>
      obtain ⟨name, type, span⟩ := field
      rw [Ty.ofDeclaredFields, List.forall_mem_cons, TypeExpr.fieldSites]
      refine ⟨List.subset_append_of_subset_left _ (Ty.sites_ofDeclared type), fun field hfield => ?_⟩
      exact List.subset_append_of_subset_right _ (Ty.sites_ofDeclaredFields rest field hfield)

theorem Ty.sites_ofDeclaredAll (types : List TypeExpr) :
    Ty.sitesAll (Ty.ofDeclaredAll types) ⊆ TypeExpr.sitesAll types := by
  cases types with
  | nil => exact List.nil_subset _
  | cons type rest =>
      rw [Ty.ofDeclaredAll, Ty.sitesAll, TypeExpr.sitesAll, List.append_subset]
      exact ⟨List.subset_append_of_subset_left _ (Ty.sites_ofDeclared type),
        List.subset_append_of_subset_right _ (Ty.sites_ofDeclaredAll rest)⟩

end

/-- The shape of declared fields has no sites but theirs. -/
lemma Shape.sites_ofFields {fields : List (String × TypeExpr)} {sites : List Site}
    (h : ∀ field ∈ fields, field.2.sites ⊆ sites) : (Shape.ofFields fields).sites ⊆ sites := by
  refine Shape.sites_ofList fun checked hchecked => ?_
  obtain ⟨field, hfield, rfl⟩ := List.mem_map.mp hchecked
  exact List.Subset.trans (Ty.sites_ofDeclared field.2) (h field hfield)

/-- The shape of a parameter list has no sites but those of the types written there. -/
lemma Shape.sites_ofParams (params : List (String × Option TypeExpr)) :
    (Shape.ofParams params).sites ⊆ paramSites params := by
  refine Shape.sites_ofFields fun field hfield => ?_
  obtain ⟨⟨name, type?⟩, hparam, rfl⟩ := List.mem_map.mp hfield
  cases type? with
  | none => exact List.nil_subset _
  | some type => exact fun site hsite => List.mem_flatMap.mpr ⟨_, hparam, hsite⟩

end RecordLang
