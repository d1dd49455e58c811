import RecordLang.Decimal.Text
import RecordLang.Span

/-!
What can go wrong during evaluation.

A *fault* is the program's: it has a cause and usually the place that caused it. A *defect* is the
evaluator's own and has no place. Messages are made from causes in one function each.

* `Error.message`: the text of an error.
* `Error.orSpan`: gives a fault a place if it has none.
* `Error.same`: equality, with numbers compared as doubles, so an error about a NaN is not even the
  same as itself.
-/

namespace RecordLang

/-- The cause of a fault. -/
inductive Cause where
  | unresolvedIdentifier (name : String)
  | unresolved (message : String)
  | unknownType (name : String)
  | notAGroup (name : String)
  | unknownVariant (group variant : String)
  | expectedValue (expected found : String)
  | typeMismatch (context expected found : String)
  | missingField (owner field : String)
  | unexpectedField (owner field : String)
  | unknownField (field found : String)
  | nonExhaustiveMatch (value : String)
  | malformedPattern (kind : String)
  | duplicateBinding (name : String)
  | redefinition (name : String)
  | notCallable (found : String)
  | invalidFactorial (value : Float)
  | indexOutOfBounds (index : Float) (length : Nat)
  | recursionLimit (limit : Nat)
deriving BEq

/-- A broken rule of the evaluator itself. -/
inductive Defect where
  | emptyScope
  | nestedTypePath (path : String)
  | emptyCallStack
deriving DecidableEq

/-- A fault of the program, with its place if known, or a defect of the evaluator. -/
inductive Error where
  | fault (cause : Cause) (span : Option Span)
  | defect (defect : Defect)

/-- The text of a fault. -/
def Cause.message : Cause → String
  | .unresolvedIdentifier name => s!"Unresolved identifier `{name}`"
  | .unresolved message => message
  | .unknownType name => s!"Unknown type `{name}`"
  | .notAGroup name => s!"`{name}` is a class, not a group"
  | .unknownVariant group variant => s!"Group `{group}` has no variant `{variant}`"
  | .expectedValue expected found => s!"Expected a {expected} but found {found}"
  | .typeMismatch context expected found =>
      s!"Type mismatch in {context}: expected {expected}, found {found}"
  | .missingField owner field => s!"`{owner}` is missing field `{field}`"
  | .unexpectedField owner field => s!"`{owner}` does not declare field `{field}`"
  | .unknownField field found => s!"{found} has no field `{field}`"
  | .nonExhaustiveMatch value => s!"No match arm matched value {value}"
  | .malformedPattern kind => s!"A {kind} cannot be used as a pattern"
  | .duplicateBinding name => s!"Pattern binds `{name}` more than once"
  | .redefinition name => s!"`{name}` is already defined in this scope"
  | .notCallable found => s!"{found} is not callable"
  | .invalidFactorial value =>
      "Factorial is only defined for non-negative integers, got " ++ Decimal.text value
  | .indexOutOfBounds index length =>
      "Index " ++ Decimal.text index ++ s!" is out of bounds for a list of length {length}"
  | .recursionLimit limit => s!"Call depth exceeded the limit of {limit}"

/-- The text of a defect. -/
def Defect.message : Defect → String
  | .emptyScope => "attempted to pop the last scope frame"
  | .nestedTypePath path => s!"type path `{path}` is nested deeper than `Group.Variant`"
  | .emptyCallStack => "call stack underflow"

namespace Error

/-- The text of an error. -/
def message : Error → String
  | .fault cause _ => cause.message
  | .defect d => "Internal error: " ++ d.message

/-- The place of an error. -/
def span : Error → Option Span
  | .fault _ span => span
  | .defect _ => none

/-- Gives a fault the place `place` if it has none. -/
def orSpan (place : Span) : Error → Error
  | .fault cause none => .fault cause (some place)
  | e => e

/-- Whether the evaluator itself is to blame. -/
def isDefect : Error → Bool
  | .fault .. => false
  | .defect _ => true

/-- Whether two errors agree, numbers compared as doubles. -/
def same : Error → Error → Bool
  | .fault c s, .fault d t => c == d && s == t
  | .defect a, .defect b => a == b
  | _, _ => false

end Error

end RecordLang
