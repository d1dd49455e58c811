import RecordLang.Span

/-!
Declared types, as they are written in field lists and parameter lists.

A declared type names primitives, classes and groups, and is built up by lists, records and unions.
References are paths: `Name` for a class or a group, `Group.Variant` for a class of a group.

* `TypePath.text`, `TypeExpr.text`: how they are written.
* `TypeExpr.same`: equality of the written forms, positions included.
-/

namespace RecordLang

/-! ### Type paths -/

/-- A reference to a type by name. A well-formed path has one or two segments. -/
structure TypePath where
  segments : List String
  span : Span
deriving DecidableEq

/-- The segments joined by points. -/
def TypePath.text (path : TypePath) : String :=
  ".".intercalate path.segments

/-! ### Primitive types -/

/-- The types that need no declaration; `any` has every value. -/
inductive Primitive where
  | number
  | string
  | boolean
  | nil
  | any
deriving DecidableEq

/-- The word for a primitive type. -/
def Primitive.text : Primitive → String
  | .number => "number"
  | .string => "string"
  | .boolean => "boolean"
  | .nil => "nil"
  | .any => "any"

/-! ### Declared types -/

mutual

/-- A type as written. -/
inductive TypeExpr where
  | primitive (p : Primitive)
  | named (path : TypePath)
  | list (item : TypeExpr)
  | record (fields : List FieldType)
  | union (alternatives : List TypeExpr)

/-- One field of a record type as written. -/
inductive FieldType where
  | mk (name : String) (type : TypeExpr) (span : Span)

end

namespace TypeExpr

mutual

/-- How a declared type is written. A union has no brackets of its own. -/
def text : TypeExpr → String
  | .primitive p => p.text
  | .named path => path.text
  | .list item => "[" ++ item.text ++ "]"
  | .record fields => "(" ++ ", ".intercalate (fieldTexts fields) ++ ")"
  | .union alternatives => " | ".intercalate (texts alternatives)

/-- How each field is written. -/
def fieldTexts : List FieldType → List String
  | [] => []
  | .mk name type _ :: rest => (name ++ ": " ++ type.text) :: fieldTexts rest

/-- How each type is written. -/
def texts : List TypeExpr → List String
  | [] => []
  | type :: rest => type.text :: texts rest

end

mutual

/-- Whether two types are written alike, at the same positions where paths and fields have one. -/
def same : TypeExpr → TypeExpr → Bool
  | .primitive p, .primitive q => p == q
  | .named p, .named q => p == q
  | .list a, .list b => same a b
  | .record fs, .record gs => sameFields fs gs
  | .union as, .union bs => sameAll as bs
  | _, _ => false

/-- Whether two field lists are written alike. -/
def sameFields : List FieldType → List FieldType → Bool
  | [], [] => true
  | .mk n a s :: fs, .mk m b t :: gs => n == m && same a b && s == t && sameFields fs gs
  | _, _ => false

/-- Whether two lists of types are written alike. -/
def sameAll : List TypeExpr → List TypeExpr → Bool
  | [], [] => true
  | a :: as, b :: bs => same a b && sameAll as bs
  | _, _ => false

end

end TypeExpr

end RecordLang
