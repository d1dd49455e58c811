import Mathlib.Tactic
import RecordLang.Interpreter
import RecordLang.Proofs.Operands

/-!
Forgetting positions.

Places are everywhere: in the text of programs, in the types and bodies that classes and functions keep
of it, in recorded calls and in errors. To *forget* them is to put one and the same place wherever there
is one. Nothing else is forgotten: names, literals, references, numbers and the shape of the text stay,
and so does whether an error has a place at all.

* `TypeExpr.unplaced`, `Expr.unplaced`, `Block.unplaced`, `Statement.unplaced`: text without places.
* `Ty.unplaced`, `Value.unplaced`, `Store.unplaced`, `State.unplaced`: what evaluation makes of it.
* `Error.unplaced`, `Interrupt.unplaced`, `Report.unplaced`: how evaluation ends.
* `Table.find?_map`, `Table.map_insert`, `Table.map_ofList`: tables with every entry changed.
* `Ty.ofDeclared_unplaced`, `Shape.ofParams_unplaced`: the checked form of a type without places.
-/

namespace RecordLang

/-! ### Types -/

/-- The path without its place. -/
def TypePath.unplaced (path : TypePath) : TypePath :=
  { path with span := default }

mutual

/-- The declared type without places. -/
def TypeExpr.unplaced : TypeExpr → TypeExpr
  | .primitive p => .primitive p
  | .named path => .named path.unplaced
  | .list item => .list item.unplaced
  | .record fields => .record (TypeExpr.unplacedFields fields)
  | .union alternatives => .union (TypeExpr.unplacedAll alternatives)

/-- The declared fields without places. -/
def TypeExpr.unplacedFields : List FieldType → List FieldType
  | [] => []
  | .mk name type _ :: rest => .mk name type.unplaced default :: TypeExpr.unplacedFields rest

/-- The declared types without places. -/
def TypeExpr.unplacedAll : List TypeExpr → List TypeExpr
  | [] => []
  | type :: rest => type.unplaced :: TypeExpr.unplacedAll rest

end

mutual

/-- The checked type without places. -/
def Ty.unplaced : Ty → Ty
  | .primitive p => .primitive p
  | .reference path => .reference path.unplaced
  | .record fields => .record (Ty.unplacedFields fields)
  | .list item => .list item.unplaced
  | .union alternatives => .union (Ty.unplacedAll alternatives)

/-- The fields without places. -/
def Ty.unplacedFields : List (String × Ty) → List (String × Ty)
  | [] => []
  | (name, type) :: rest => (name, type.unplaced) :: Ty.unplacedFields rest

/-- The checked types without places. -/
def Ty.unplacedAll : List Ty → List Ty
  | [] => []
  | type :: rest => type.unplaced :: Ty.unplacedAll rest

end

/-- The shape without places. -/
def Shape.unplaced (shape : Shape) : Shape :=
  shape.map Ty.unplaced

/-! ### Programs -/

/-- The declaration of a class without places. -/
def ClassDecl.unplaced (decl : ClassDecl) : ClassDecl where
  name := decl.name
  fields := decl.fields.map fun field => (field.1, field.2.unplaced)
  span := default

/-- The declaration of a group without places. -/
def GroupDecl.unplaced (decl : GroupDecl) : GroupDecl where
  name := decl.name
  variants := decl.variants.map ClassDecl.unplaced
  span := default

/-- The parameter list without places. -/
def unplacedParams (params : List (String × Option TypeExpr)) : List (String × Option TypeExpr) :=
  params.map fun param => (param.1, param.2.map TypeExpr.unplaced)

mutual

/-- The expression without places. -/
def Expr.unplaced : Expr → Expr
  | .identifier name _ => .identifier name default
  | .typeRef path => .typeRef path.unplaced
  | .literal l _ => .literal l default
  | .record fields _ => .record (Expr.unplacedFields fields) default
  | .list items _ => .list (Expr.unplacedAll items) default
  | .binary op left right _ => .binary op left.unplaced right.unplaced default
  | .unary op operand _ => .unary op operand.unplaced default
  | .call callee argument _ => .call callee.unplaced argument.unplaced default
  | .callNamed callee arguments _ =>
      .callNamed callee.unplaced (Expr.unplacedFields arguments) default
  | .field base name _ => .field base.unplaced name default
  | .index base position _ => .index base.unplaced position.unplaced default
  | .select subject arms _ => .select subject.unplaced (Block.unplacedArms arms) default
  | .lambda params body _ => .lambda (unplacedParams params) body.unplaced default

/-- The expressions without places. -/
def Expr.unplacedAll : List Expr → List Expr
  | [] => []
  | e :: rest => e.unplaced :: Expr.unplacedAll rest

/-- The named expressions without places. -/
def Expr.unplacedFields : List (String × Expr) → List (String × Expr)
  | [] => []
  | (name, e) :: rest => (name, e.unplaced) :: Expr.unplacedFields rest

/-- The optional expression without places. -/
def Expr.unplacedOption : Option Expr → Option Expr
  | none => none
  | some e => some e.unplaced

/-- The arms without places, patterns included. -/
def Block.unplacedArms : List (Expr × Block) → List (Expr × Block)
  | [] => []
  | (pattern, body) :: rest => (pattern.unplaced, body.unplaced) :: Block.unplacedArms rest

/-- The block without places. -/
def Block.unplaced : Block → Block
  | .mk statements tail => .mk (Statement.unplacedAll statements) (Expr.unplacedOption tail)

/-- The optional block without places. -/
def Block.unplacedOption : Option Block → Option Block
  | none => none
  | some block => some block.unplaced

/-- The statement without places. -/
def Statement.unplaced : Statement → Statement
  | .const name value _ => .const name value.unplaced default
  | .assign name value _ => .assign name value.unplaced default
  | .classDef decl => .classDef decl.unplaced
  | .groupDef decl => .groupDef decl.unplaced
  | .function name arms _ => .function name (Block.unplacedArms arms) default
  | .leave value _ => .leave (Expr.unplacedOption value) default
  | .branch condition yes no _ =>
      .branch condition.unplaced yes.unplaced (Block.unplacedOption no) default
  | .log value _ => .log value.unplaced default
  | .logType path _ => .logType path.unplaced default
  | .expression value _ => .expression value.unplaced default

/-- The statements, so the program, without places. -/
def Statement.unplacedAll : List Statement → List Statement
  | [] => []
  | st :: rest => st.unplaced :: Statement.unplacedAll rest

end

@[simp] lemma Expr.span_unplaced (e : Expr) : e.unplaced.span = default := by
  cases e <;> simp only [Expr.unplaced, Expr.span, TypePath.unplaced]

@[simp] lemma Expr.kind_unplaced (e : Expr) : e.unplaced.kind = e.kind := by
  cases e <;> simp only [Expr.unplaced, Expr.kind]

lemma Block.unplacedArms_eq (arms : List Arm) :
    Block.unplacedArms arms = arms.map fun arm => (arm.1.unplaced, arm.2.unplaced) := by
  induction arms with
  | nil => rfl
  | cons arm rest ih =>
      obtain ⟨pattern, body⟩ := arm
      rw [Block.unplacedArms, ih, List.map_cons]

/-! ### Values and states -/

/-- The class without places. -/
def Class.unplaced (c : Class) : Class :=
  { c with shape := c.shape.unplaced, span := default }

/-- The group without places. -/
def Group.unplaced (g : Group) : Group :=
  { g with variants := g.variants.map Class.unplaced, span := default }

/-- The function without places. -/
def MatchFunction.unplaced (f : MatchFunction) : MatchFunction :=
  { f with arms := Block.unplacedArms f.arms }

/-- The lambda without places. -/
def Lambda.unplaced (f : Lambda) : Lambda :=
  { f with params := f.params.unplaced, body := f.body.unplaced }

/-- The value without the places in the definitions that it holds. -/
def Value.unplaced : Value → Value
  | .object c r => .object c.unplaced r
  | .ofClass c => .ofClass c.unplaced
  | .ofGroup g => .ofGroup g.unplaced
  | .function f => .function f.unplaced
  | .lambda f => .lambda f.unplaced
  | v => v

/-- The store without places. -/
def Store.unplaced (st : Store) : Store where
  frames := st.frames.map (Table.map Value.unplaced)
  lists := st.lists.map (Array.map Value.unplaced)
  records := st.records.map (Table.map Value.unplaced)
  nextId := st.nextId

/-- The class or group without places. -/
def TypeEntry.unplaced : TypeEntry → TypeEntry
  | .ofClass c => .ofClass c.unplaced
  | .ofGroup g => .ofGroup g.unplaced

/-- The registry without places. -/
def Registry.unplaced (types : Registry) : Registry :=
  types.map TypeEntry.unplaced

/-- The error without its place; whether it has one stays. -/
def Error.unplaced : Error → Error
  | .fault cause span => .fault cause (span.map fun _ => default)
  | .defect d => .defect d

/-- The recorded call without its place. -/
def CallFrame.unplaced (call : CallFrame) : CallFrame :=
  { call with span := call.span.map fun _ => default }

/-- The console without the place of the failure. -/
def Console.unplaced (console : Console) : Console :=
  { console with failure := console.failure.map Error.unplaced }

/-- The state without places. -/
def State.unplaced (s : State) : State where
  store := s.store.unplaced
  scope := s.scope
  types := s.types.unplaced
  calls := s.calls.map CallFrame.unplaced
  console := s.console.unplaced

/-- What cut evaluation short, without places. -/
def Interrupt.unplaced : Interrupt → Interrupt
  | .returned v => .returned v.unplaced
  | .failed e => .failed e.unplaced

/-- The report without places. -/
def Report.unplaced : Report → Report
  | .finished => .finished
  | .returned v => .returned v.unplaced
  | .failed e => .failed e.unplaced

/-! ### Tables -/

namespace Table

variable {α β : Type}

lemma ext {t t' : Table α} (h : t.entries = t'.entries) : t = t' := by
  cases t
  cases t'
  cases h
  rfl

lemma lookup_map (f : α → β) (es : List (String × α)) (name : String) :
    (es.map fun e => (e.1, f e.2)).lookup name = (es.lookup name).map f := by
  induction es with
  | nil => rfl
  | cons e rest ih =>
      obtain ⟨key, a⟩ := e
      rw [List.map_cons, List.lookup_cons, List.lookup_cons]
      cases name == key with
      | true => rfl
      | false => exact ih

@[simp] lemma find?_map (f : α → β) (t : Table α) (name : String) :
    (t.map f).find? name = (t.find? name).map f :=
  lookup_map f t.entries name

@[simp] lemma contains_map (f : α → β) (t : Table α) (name : String) :
    (t.map f).contains name = t.contains name := by
  rw [contains, contains, find?_map, Option.isSome_map]

@[simp] lemma keys_map (f : α → β) (t : Table α) : (t.map f).keys = t.keys := by
  simp only [keys, map, List.map_map, Function.comp_def]

@[simp] lemma size_map (f : α → β) (t : Table α) : (t.map f).size = t.size :=
  List.length_map ..

lemma put_map (f : α → β) (es : List (String × α)) (key : String) (a : α) :
    put (es.map fun e => (e.1, f e.2)) key (f a) = (put es key a).map fun e => (e.1, f e.2) := by
  induction es with
  | nil => rfl
  | cons e rest ih =>
      obtain ⟨k, b⟩ := e
      rw [List.map_cons, put, put]
      split
      · rfl
      · rw [ih, List.map_cons]

/-- Writing into a table commutes with a change of its entries. -/
lemma map_insert (f : α → β) (t : Table α) (key : String) (a : α) :
    (t.insert key a).map f = (t.map f).insert key (f a) :=
  ext (put_map f t.entries key a).symm

/-- A table made of changed pairs is the changed table of the pairs. -/
lemma map_ofList (f : α → β) (pairs : List (String × α)) :
    (ofList pairs).map f = ofList (pairs.map fun p => (p.1, f p.2)) := by
  have hfold : ∀ t : Table α, (pairs.foldl (fun t p => t.insert p.1 p.2) t).map f
      = (pairs.map fun p => (p.1, f p.2)).foldl (fun t p => t.insert p.1 p.2) (t.map f) := by
    induction pairs with
    | nil => exact fun _ => rfl
    | cons p rest ih =>
        intro t
        rw [List.map_cons, List.foldl_cons, List.foldl_cons, ih, map_insert]
  exact hfold empty

end Table

/-! ### Checked types -/

lemma Ty.unplacedFields_eq (fields : List (String × Ty)) :
    Ty.unplacedFields fields = fields.map fun field => (field.1, field.2.unplaced) := by
  induction fields with
  | nil => rfl
  | cons field rest ih =>
      obtain ⟨name, type⟩ := field
      rw [Ty.unplacedFields, ih, List.map_cons]

mutual

/-- Forgetting places commutes with checking the form of a type. -/
theorem Ty.ofDeclared_unplaced (type : TypeExpr) :
    Ty.ofDeclared type.unplaced = (Ty.ofDeclared type).unplaced := by
  cases type with
  | primitive p => simp only [TypeExpr.unplaced, Ty.ofDeclared, Ty.unplaced]
  | named path => simp only [TypeExpr.unplaced, Ty.ofDeclared, Ty.unplaced]
  | list item => simp only [TypeExpr.unplaced, Ty.ofDeclared, Ty.unplaced, Ty.ofDeclared_unplaced item]
  | record fields =>
      have htable := Table.map_ofList Ty.unplaced (Ty.ofDeclaredFields fields)
      rw [← Ty.unplacedFields_eq, ← Ty.ofDeclaredFields_unplaced fields] at htable
      rw [TypeExpr.unplaced, Ty.ofDeclared, Ty.ofDeclared, Ty.unplaced, ← htable, Ty.unplacedFields_eq]
      rfl
  | union alternatives =>
      simp only [TypeExpr.unplaced, Ty.ofDeclared, Ty.unplaced, Ty.ofDeclaredAll_unplaced alternatives]

theorem Ty.ofDeclaredFields_unplaced (fields : List FieldType) :
    Ty.ofDeclaredFields (TypeExpr.unplacedFields fields)
      = Ty.unplacedFields (Ty.ofDeclaredFields fields) := by
  cases fields with
  | nil => rfl
  | cons field rest =>
      obtain ⟨name, type, span⟩ := field
      simp only [TypeExpr.unplacedFields, Ty.ofDeclaredFields, Ty.unplacedFields,
        Ty.ofDeclared_unplaced type, Ty.ofDeclaredFields_unplaced rest]

theorem Ty.ofDeclaredAll_unplaced (types : List TypeExpr) :
    Ty.ofDeclaredAll (TypeExpr.unplacedAll types) = Ty.unplacedAll (Ty.ofDeclaredAll types) := by
  cases types with
  | nil => rfl
  | cons type rest =>
      simp only [TypeExpr.unplacedAll, Ty.ofDeclaredAll, Ty.unplacedAll, Ty.ofDeclared_unplaced type,
        Ty.ofDeclaredAll_unplaced rest]

end

lemma Shape.ofFields_unplaced (fields : List (String × TypeExpr)) :
    Shape.ofFields (fields.map fun field => (field.1, field.2.unplaced))
      = (Shape.ofFields fields).unplaced := by
  rw [Shape.unplaced, Shape.ofFields, Shape.ofFields, Table.map_ofList, List.map_map, List.map_map]
  simp only [Function.comp_def, Ty.ofDeclared_unplaced]

lemma Shape.ofParams_unplaced (params : List (String × Option TypeExpr)) :
    Shape.ofParams (unplacedParams params) = (Shape.ofParams params).unplaced := by
  rw [Shape.ofParams, Shape.ofParams, ← Shape.ofFields_unplaced, unplacedParams, List.map_map,
    List.map_map]
  congr 1
  refine List.map_congr_left fun param _ => ?_
  obtain ⟨name, _ | type⟩ := param <;> simp [TypeExpr.unplaced]

mutual

/-- The text of a type does not tell where it stands. -/
theorem Ty.text_unplaced (type : Ty) : type.unplaced.text = type.text := by
  cases type with
  | primitive p => rw [Ty.unplaced]
  | reference path => simp only [Ty.unplaced, Ty.text, TypePath.unplaced, TypePath.text]
  | record fields => rw [Ty.unplaced, Ty.text, Ty.text, Ty.fieldTexts_unplaced fields]
  | list item => rw [Ty.unplaced, Ty.text, Ty.text, Ty.text_unplaced item]
  | union alternatives => rw [Ty.unplaced, Ty.text, Ty.text, Ty.texts_unplaced alternatives]

theorem Ty.fieldTexts_unplaced (fields : List (String × Ty)) :
    Ty.fieldTexts (Ty.unplacedFields fields) = Ty.fieldTexts fields := by
  cases fields with
  | nil => rfl
  | cons field rest =>
      obtain ⟨name, type⟩ := field
      rw [Ty.unplacedFields, Ty.fieldTexts, Ty.fieldTexts, Ty.text_unplaced type,
        Ty.fieldTexts_unplaced rest]

theorem Ty.texts_unplaced (types : List Ty) : Ty.texts (Ty.unplacedAll types) = Ty.texts types := by
  cases types with
  | nil => rfl
  | cons type rest =>
      rw [Ty.unplacedAll, Ty.texts, Ty.texts, Ty.text_unplaced type, Ty.texts_unplaced rest]

end

@[simp] lemma Shape.text_unplaced (shape : Shape) : shape.unplaced.text = shape.text := by
  have hentries : shape.unplaced.toTy = shape.toTy.unplaced := by
    rw [Shape.toTy, Shape.toTy, Ty.unplaced, Ty.unplacedFields_eq]
    rfl
  rw [Shape.text, Shape.text, hentries, Ty.text_unplaced]

end RecordLang
