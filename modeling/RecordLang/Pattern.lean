import RecordLang.Registry
import RecordLang.Store

/-!
Matching values against patterns.

A pattern is an expression of a restricted form: an identifier, which matches anything and binds it
(`_` binds nothing); a literal; a record of patterns, which matches a plain record that has at least
these fields; or a class with named patterns, which matches an object of exactly that class. A pattern
is validated as a whole before any value is looked at, so a malformed pattern is an error even where an
earlier part of it would not match.

* `Pattern.validate`: refuses malformed patterns and names bound twice.
* `Pattern.match?`: the bindings of a match.
* `Pattern.first?`: the first of several alternatives whose pattern matches.
-/

namespace RecordLang

/-- Names with the values a match gave them, in the order of the pattern. -/
abbrev Bindings := List (String × Value)

namespace Pattern

/-- The identifier that matches anything and binds nothing. -/
def wildcard : String :=
  "_"

/-- The error for an expression that is no pattern. -/
def malformed (e : Expr) : Error :=
  .fault (.malformedPattern e.kind) (some e.span)

/-! ### Validation -/

mutual

/-- Checks a pattern behind one that bound the names `seen`, and adds the names that it binds. -/
def validateAfter (seen : List String) : Expr → Except Error (List String)
  | .identifier name span =>
      if name = wildcard then .ok seen
      else if name ∈ seen then .error (.fault (.duplicateBinding name) (some span))
      else .ok (name :: seen)
  | .literal _ _ => .ok seen
  | .record fields _ => validateFields seen fields
  | .callNamed (.typeRef _) fields _ => validateFields seen fields
  | e => .error (malformed e)

/-- Checks the patterns of fields from left to right. -/
def validateFields (seen : List String) : List (String × Expr) → Except Error (List String)
  | [] => .ok seen
  | (_, p) :: rest =>
      match validateAfter seen p with
      | .error e => .error e
      | .ok seen => validateFields seen rest

end

/-- Checks that an expression is a pattern that binds no name twice. -/
def validate (p : Expr) : Except Error Unit :=
  (validateAfter [] p).map fun _ => ()

/-! ### Matching -/

/-- Whether a value is the one that a literal stands for. -/
def literalMatches : Literal → Value → Bool
  | .number x, .number y => x == y
  | .string s, .string t => s == t
  | .boolean a, .boolean b => a == b
  | .null, .nil => true
  | _, _ => false

mutual

/-- The bindings that a validated pattern gives when matched with a value. -/
def bindings? (types : Registry) (st : Store) : Expr → Value → Except Error (Option Bindings)
  | .identifier name _, v => .ok (some (if name = wildcard then [] else [(name, v)]))
  | .literal l _, v => .ok (if literalMatches l v then some [] else none)
  | .record fields _, v =>
      match v with
      | .record r => fieldBindings? types st fields (st.record r)
      | _ => .ok none
  | .callNamed (.typeRef path) fields _, v =>
      match types.resolveClass path with
      | .error e => .error e
      | .ok c =>
          match v with
          | .object d r =>
              if d.id = c.id then fieldBindings? types st fields (st.record r) else .ok none
          | _ => .ok none
  | e, _ => .error (malformed e)

/-- The bindings of the patterns of fields, up to the first that is absent or does not match. -/
def fieldBindings? (types : Registry) (st : Store) :
    List (String × Expr) → Table Value → Except Error (Option Bindings)
  | [], _ => .ok (some [])
  | (name, p) :: rest, found =>
      match found.find? name with
      | none => .ok none
      | some v =>
          match bindings? types st p v with
          | .error e => .error e
          | .ok none => .ok none
          | .ok (some bs) => (fieldBindings? types st rest found).map (·.map (bs ++ ·))

end

/-- The bindings of a match, `none` if the value does not match the pattern. -/
def match? (types : Registry) (st : Store) (p : Expr) (v : Value) :
    Except Error (Option Bindings) :=
  match validate p with
  | .error e => .error e
  | .ok () => bindings? types st p v

/-- The first alternative whose pattern matches, with its bindings. Alternatives behind it are not
looked at. -/
def first? {α : Type} (types : Registry) (st : Store) (v : Value) :
    List (Expr × α) → Except Error (Option (α × Bindings))
  | [] => .ok none
  | (p, a) :: rest =>
      match match? types st p v with
      | .error e => .error e
      | .ok (some bs) => .ok (some (a, bs))
      | .ok none => first? types st v rest

end Pattern

end RecordLang
