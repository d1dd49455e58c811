import RecordLang.Registry
import RecordLang.Store

/-!
Conformance of values to types.

A value conforms to a primitive type by its kind, to a reference if it is an object of the class, or of
a class of the group, that the path stands for, to a record type if it is a plain record with exactly
the declared fields, to a list type if every item conforms, and to a union if it conforms to an
alternative. Paths are resolved only when an object is compared with them; a path that stands for
nothing is then an error.

* `Ty.accepts`: whether a value conforms to a type.
* `Shape.check`: the same for the fields of a record, with an error that tells what is wrong.
* `Class.instantiate`: makes a record an object of a class.
-/

namespace RecordLang

/-- Whether a value has the kind that a primitive type asks for. -/
def Primitive.accepts : Primitive → Value → Bool
  | .any, _ => true
  | .number, .number _ => true
  | .string, .string _ => true
  | .boolean, .boolean _ => true
  | .nil, .nil => true
  | _, _ => false

/-- Whether objects of a class belong to what a type name stands for. -/
def TypeEntry.covers (c : Class) : TypeEntry → Bool
  | .ofClass d => d.id == c.id
  | .ofGroup g => g.contains c

namespace Ty

mutual

/-- Whether a value conforms to a type; an error if a path must be resolved and cannot be. -/
def accepts (types : Registry) (st : Store) : Ty → Value → Except Error Bool
  | .primitive p, v => .ok (p.accepts v)
  | .reference path, .object c _ => (types.resolve path).map (·.covers c)
  | .reference _, _ => .ok false
  | .record fields, .record r =>
      let found := st.record r
      if found.size = fields.length then acceptsFields types st fields found else .ok false
  | .record _, _ => .ok false
  | .list item, .list r => (st.list r).toList.allM (accepts types st item)
  | .list _, _ => .ok false
  | .union alternatives, v => acceptsAny types st alternatives v

/-- Whether each declared field is found and conforms, up to the first that does not. -/
def acceptsFields (types : Registry) (st : Store) :
    List (String × Ty) → Table Value → Except Error Bool
  | [], _ => .ok true
  | (name, type) :: rest, found =>
      match found.find? name with
      | none => .ok false
      | some v => do
          if ← accepts types st type v then acceptsFields types st rest found else .ok false

/-- Whether the value conforms to one of the types, up to the first that it does. -/
def acceptsAny (types : Registry) (st : Store) : List Ty → Value → Except Error Bool
  | [], _ => .ok false
  | type :: rest, v => do
      if ← accepts types st type v then .ok true else acceptsAny types st rest v

end

end Ty

namespace Shape

/-- Checks the value of each declared field, in the order of declaration. -/
def checkTypes (types : Registry) (st : Store) (found : Table Value) (owner : String)
    (span : Option Span) : List (String × Ty) → Except Error Unit
  | [] => .ok ()
  | (name, type) :: rest =>
      match found.find? name with
      | none => checkTypes types st found owner span rest
      | some v => do
          if ← type.accepts types st v then checkTypes types st found owner span rest
          else
            .error (.fault
              (.typeMismatch s!"field `{owner}.{name}`" type.text v.typeName) span)

/-- Checks the fields of a record against a shape. The first declared field that is absent is reported
first, then the first field that is not declared, then the first of the wrong type. -/
def check (types : Registry) (st : Store) (shape : Shape) (found : Table Value) (owner : String)
    (span : Option Span) : Except Error Unit :=
  match shape.keys.find? fun name => !found.contains name with
  | some name => .error (.fault (.missingField owner name) span)
  | none =>
      match found.keys.find? fun name => !shape.contains name with
      | some name => .error (.fault (.unexpectedField owner name) span)
      | none => checkTypes types st found owner span shape.entries

end Shape

/-- The record `r` as an object of the class, if its fields conform. -/
def Class.instantiate (types : Registry) (st : Store) (c : Class) (r : RecordRef)
    (span : Option Span) : Except Error Value := do
  c.shape.check types st (st.record r) c.displayName span
  .ok (.object c r)

end RecordLang
