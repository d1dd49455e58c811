import RecordLang.Store

/-!
Structural equality of values.

Two lists are equal if they are one list, or have equal items place by place; two records if they are
one record, or have the same field names with equal values, in any order. Objects must also be of the
same class. Classes, groups and functions are equal only to themselves. Numbers compare as doubles, so
a NaN differs from itself.

* `Value.equal`: equality in a store.
-/

namespace RecordLang.Value

/-- Whether two field tables have the same names with values related by `eq`. -/
def equalFields (eq : Value → Value → Bool) (a b : Table Value) : Bool :=
  a.size == b.size && a.entries.all fun (name, v) => (b.find? name).any (eq v)

/-- Whether two item lists have the same length and items related by `eq`. -/
def equalItems (eq : Value → Value → Bool) (a b : Array Value) : Bool :=
  a.size == b.size && (a.toList.zip b.toList).all fun (v, w) => eq v w

/-- Structural equality of values nested at most `depth` containers deep. -/
def equalWithin (st : Store) : Nat → Value → Value → Bool
  | _, .number x, .number y => x == y
  | _, .string s, .string t => s == t
  | _, .boolean a, .boolean b => a == b
  | _, .nil, .nil => true
  | depth, .list a, .list b =>
      a == b || match depth with
        | 0 => false
        | depth + 1 => equalItems (equalWithin st depth) (st.list a) (st.list b)
  | depth, .record a, .record b =>
      a == b || match depth with
        | 0 => false
        | depth + 1 => equalFields (equalWithin st depth) (st.record a) (st.record b)
  | depth, .object c a, .object d b =>
      c.id == d.id && (a == b || match depth with
        | 0 => false
        | depth + 1 => equalFields (equalWithin st depth) (st.record a) (st.record b))
  | _, .ofClass c, .ofClass d => c.id == d.id
  | _, .ofGroup g, .ofGroup h => g.id == h.id
  | _, .function f, .function g => f.id == g.id
  | _, .lambda f, .lambda g => f.id == g.id
  | _, .native f, .native g => f == g
  | _, _, _ => false

/-- Structural equality. Containers without cycles are nested at most as deep as there are
containers. -/
def equal (st : Store) (v w : Value) : Bool :=
  equalWithin st st.containers v w

end RecordLang.Value
