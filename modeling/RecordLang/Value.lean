import RecordLang.Error
import RecordLang.Scope
import RecordLang.Ty

/-!
Values.

Numbers, strings, booleans and nil are values in themselves. Lists and records are references into the
store, so that two values can share one list. Classes, groups and functions are made once, by a
statement or a lambda, and never change; each carries a number of its own, and two of them are the same
thing exactly when their numbers agree.

* `Class`, `Group`, `MatchFunction`, `Lambda`, `Native`: the things that definitions make.
* `Value`: the values, and `Value.typeName` their kinds as named in messages.
* `Value.expectNumber` and its siblings: the payload of a value of one kind, or an error.
-/

namespace RecordLang

/-! ### References -/

/-- The place of a list in the store. -/
structure ListRef where
  index : Nat
deriving DecidableEq

/-- The place of a record in the store. -/
structure RecordRef where
  index : Nat
deriving DecidableEq

/-! ### Classes and groups -/

/-- A class: a name for records of one shape. `group` is the group it was declared in. -/
structure Class where
  id : Nat
  name : String
  group : Option String
  shape : Shape
  span : Span

namespace Class

/-- The name by which programs refer to the class. -/
def displayName (c : Class) : String :=
  match c.group with
  | some group => group ++ "." ++ c.name
  | none => c.name

/-- The declaration of the class. -/
def text (c : Class) : String :=
  c.displayName ++ c.shape.text

end Class

/-- A group: a name space of sibling classes. -/
structure Group where
  id : Nat
  name : String
  variants : Table Class
  span : Span

namespace Group

/-- Whether a class is one of the variants. -/
def contains (g : Group) (c : Class) : Bool :=
  g.variants.entries.any fun v => v.2.id == c.id

/-- The declaration of the group. -/
def text (g : Group) : String :=
  let variants := g.variants.entries.map fun v => v.1 ++ v.2.shape.text
  g.name ++ " \x7b " ++ ", ".intercalate variants ++ " \x7d"

end Group

/-! ### Functions -/

/-- A function defined by the arms of a match on its argument. -/
structure MatchFunction where
  id : Nat
  name : String
  arms : List Arm
  scope : Scope

/-- A function without a name, which takes the fields of a record as its parameters. -/
structure Lambda where
  id : Nat
  params : Shape
  body : Block
  scope : Scope

/-- The functions every program finds defined. -/
inductive Native where
  | length
  | toString
  | push
  | floor
deriving DecidableEq

/-- The name under which a native function is defined. -/
def Native.name : Native → String
  | .length => "length"
  | .toString => "toString"
  | .push => "push"
  | .floor => "floor"

/-! ### Values -/

/-- A value. An `object` is a record made by a class. -/
inductive Value where
  | number (x : Float)
  | string (s : String)
  | boolean (b : Bool)
  | nil
  | list (ref : ListRef)
  | record (ref : RecordRef)
  | object (c : Class) (ref : RecordRef)
  | ofClass (c : Class)
  | ofGroup (g : Group)
  | function (f : MatchFunction)
  | lambda (f : Lambda)
  | native (f : Native)

instance : Inhabited Value :=
  ⟨.nil⟩

namespace Value

/-- What the kind of a value is called. -/
def typeName : Value → String
  | .number _ => "number"
  | .string _ => "string"
  | .boolean _ => "boolean"
  | .nil => "nil"
  | .list _ => "list"
  | .record _ => "record"
  | .object .. => "named record"
  | .ofClass _ => "class"
  | .ofGroup _ => "group"
  | .function _ => "match function"
  | .lambda _ => "function"
  | .native _ => "native function"

/-- The value a literal stands for. -/
def ofLiteral : Literal → Value
  | .number x => .number x
  | .string s => .string s
  | .boolean b => .boolean b
  | .null => .nil

/-! ### Payloads -/

/-- The error for a value of the wrong kind. -/
def unexpected (v : Value) (expected : String) (span : Option Span) : Error :=
  .fault (.expectedValue expected v.typeName) span

/-- The number, if the value is one. -/
def expectNumber (span : Option Span) : Value → Except Error Float
  | .number x => .ok x
  | v => .error (v.unexpected "number" span)

/-- The string, if the value is one. -/
def expectString (span : Option Span) : Value → Except Error String
  | .string s => .ok s
  | v => .error (v.unexpected "string" span)

/-- The truth value, if the value is one. -/
def expectBoolean (span : Option Span) : Value → Except Error Bool
  | .boolean b => .ok b
  | v => .error (v.unexpected "boolean" span)

/-- The record, if the value is a plain one. -/
def expectRecord (span : Option Span) : Value → Except Error RecordRef
  | .record r => .ok r
  | v => .error (v.unexpected "record" span)

/-- The list, if the value is one. -/
def expectList (span : Option Span) : Value → Except Error ListRef
  | .list r => .ok r
  | v => .error (v.unexpected "list" span)

end Value

end RecordLang
