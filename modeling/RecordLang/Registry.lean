import RecordLang.Value

/-!
The type registry: which classes and groups type names stand for.

Classes and groups are registered under their names as their definitions are evaluated. A path of one
segment names an entry, a path of two a variant of a group.

* `Registry.resolve`: the class or group a path stands for.
* `Registry.resolveClass`: the same for a path that must name one class.
-/

namespace RecordLang

/-- What a type name stands for. -/
inductive TypeEntry where
  | ofClass (c : Class)
  | ofGroup (g : Group)

namespace TypeEntry

/-- The class or group as a value. -/
def toValue : TypeEntry → Value
  | .ofClass c => .ofClass c
  | .ofGroup g => .ofGroup g

/-- The declaration of the class or group. -/
def text : TypeEntry → String
  | .ofClass c => c.text
  | .ofGroup g => g.text

end TypeEntry

/-- The registered classes and groups by name. -/
abbrev Registry := Table TypeEntry

namespace Registry

/-- The class `variant` of the group `group`. -/
def resolveVariant (types : Registry) (group variant : String) (span : Option Span) :
    Except Error Class :=
  match types.find? group with
  | some (.ofGroup g) =>
      match g.variants.find? variant with
      | some c => .ok c
      | none => .error (.fault (.unknownVariant group variant) span)
  | some (.ofClass _) => .error (.fault (.notAGroup group) span)
  | none => .error (.fault (.unknownType group) span)

/-- The class or group that a path stands for. -/
def resolve (types : Registry) (path : TypePath) : Except Error TypeEntry :=
  match path.segments with
  | [name] =>
      match types.find? name with
      | some entry => .ok entry
      | none => .error (.fault (.unknownType name) (some path.span))
  | [group, variant] =>
      match types.resolveVariant group variant (some path.span) with
      | .ok c => .ok (.ofClass c)
      | .error e => .error e
  | _ => .error (.defect (.nestedTypePath path.text))

/-- The class that a path stands for; a group is an error. -/
def resolveClass (types : Registry) (path : TypePath) : Except Error Class :=
  match types.resolve path with
  | .error e => .error e
  | .ok (.ofClass c) => .ok c
  | .ok (.ofGroup g) =>
      .error (.fault
        (.typeMismatch ("type `" ++ path.text ++ "`") "a class" ("group `" ++ g.name ++ "`"))
        (some path.span))

end Registry

end RecordLang
