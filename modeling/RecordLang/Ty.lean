import RecordLang.Syntax.Expr
import RecordLang.Table

/-!
Types as the evaluator checks them.

A checked type is a declared type without positions of fields and without repeated field names: in a
record type the last declaration of a field counts and stands at the place of the first. References
stay names until a value is checked, so a class may mention itself or a class defined later.

* `Ty.ofDeclared`: the checked form of a declared type.
* `Ty.text`, `Shape.text`: how types are written in messages.
* `Ty.same`: equality, in which the order of record fields does not count.
-/

namespace RecordLang

/-- A type as checked. The fields of a record type have distinct names if the type was declared. -/
inductive Ty where
  | primitive (p : Primitive)
  | reference (path : TypePath)
  | record (fields : List (String × Ty))
  | list (item : Ty)
  | union (alternatives : List Ty)

/-- The field types of a class, a parameter list or a record type. -/
abbrev Shape := Table Ty

namespace Ty

/-! ### From declared types -/

mutual

/-- The checked form of a declared type. -/
def ofDeclared : TypeExpr → Ty
  | .primitive p => .primitive p
  | .named path => .reference path
  | .list item => .list (ofDeclared item)
  | .record fields => .record (Table.ofList (ofDeclaredFields fields)).entries
  | .union alternatives => .union (ofDeclaredAll alternatives)

/-- The checked forms of declared fields, repetitions included. -/
def ofDeclaredFields : List FieldType → List (String × Ty)
  | [] => []
  | .mk name type _ :: rest => (name, ofDeclared type) :: ofDeclaredFields rest

/-- The checked forms of declared types. -/
def ofDeclaredAll : List TypeExpr → List Ty
  | [] => []
  | type :: rest => ofDeclared type :: ofDeclaredAll rest

end

/-! ### Text -/

mutual

/-- How a type is written. -/
def text : Ty → String
  | .primitive p => p.text
  | .reference path => path.text
  | .record fields => "(" ++ ", ".intercalate (fieldTexts fields) ++ ")"
  | .list item => "[" ++ item.text ++ "]"
  | .union alternatives => " | ".intercalate (texts alternatives)

/-- How each field is written. -/
def fieldTexts : List (String × Ty) → List String
  | [] => []
  | (name, type) :: rest => (name ++ ": " ++ type.text) :: fieldTexts rest

/-- How each type is written. -/
def texts : List Ty → List String
  | [] => []
  | type :: rest => type.text :: texts rest

end

/-! ### Equality -/

mutual

/-- Whether two types agree; positions of paths count, the order of record fields does not. -/
def same : Ty → Ty → Bool
  | .primitive p, .primitive q => p == q
  | .reference p, .reference q => p == q
  | .record fs, .record gs => fs.length == gs.length && sameFields fs gs
  | .list a, .list b => same a b
  | .union as, .union bs => sameAll as bs
  | _, _ => false

/-- Whether each of the first fields has its like among the second. -/
def sameFields : List (String × Ty) → List (String × Ty) → Bool
  | [], _ => true
  | (name, type) :: rest, gs =>
      (match gs.lookup name with
        | some other => same type other
        | none => false) && sameFields rest gs

/-- Whether two lists of types agree place by place. -/
def sameAll : List Ty → List Ty → Bool
  | [], [] => true
  | a :: as, b :: bs => same a b && sameAll as bs
  | _, _ => false

end

end Ty

namespace Shape

/-- The record type with these fields. -/
def toTy (s : Shape) : Ty :=
  .record s.entries

/-- How a shape is written. -/
def text (s : Shape) : String :=
  s.toTy.text

/-- The shape of declared fields. -/
def ofFields (fields : List (String × TypeExpr)) : Shape :=
  Table.ofList (fields.map fun f => (f.1, Ty.ofDeclared f.2))

/-- The shape of a parameter list; a parameter without a type takes any value. -/
def ofParams (params : List (String × Option TypeExpr)) : Shape :=
  ofFields (params.map fun p => (p.1, p.2.getD (.primitive .any)))

end Shape

end RecordLang
