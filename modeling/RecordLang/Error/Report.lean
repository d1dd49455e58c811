import RecordLang.Error
import RecordLang.Error.Excerpt
import RecordLang.Text.Wrapped

/-!
Reports: an error shown against the program text.

A report has the message, an excerpt of the text with the place of the error marked, and a hint if there
is one. Messages and hints are wrapped so that, indented, they fit on lines of 200 columns with a margin
on the right.

* `Error.label`, `Error.help`: the words put to an error.
* `Report.message`, `Report.hint`: the lines of a message and of a hint.
* `Error.render`: the whole report.
-/

namespace RecordLang

/-! ### Words -/

namespace Error

/-- What the marked place is called. -/
def label : Error → String
  | .defect _ => "internal error"
  | .fault cause _ =>
      match cause with
      | .unresolvedIdentifier .. | .unresolved .. => "not defined here"
      | .unknownType .. | .notAGroup .. | .unknownVariant .. => "unknown type"
      | .expectedValue .. | .typeMismatch .. => "wrong type"
      | .missingField .. | .unexpectedField .. | .unknownField .. => "field mismatch"
      | .nonExhaustiveMatch .. => "no arm matched"
      | .malformedPattern .. | .duplicateBinding .. => "invalid pattern"
      | .redefinition .. => "redefined"
      | .notCallable .. => "not callable"
      | .invalidFactorial .. => "invalid operand"
      | .indexOutOfBounds .. => "out of bounds"
      | .recursionLimit .. => "call made here"

/-- A hint on how to mend the program. -/
def help : Error → Option String
  | .defect _ => some "this is a bug in the evaluator"
  | .fault cause _ =>
      match cause with
      | .nonExhaustiveMatch .. =>
          some "add a catch-all arm such as `case other: \x7b ... \x7d`"
      | .missingField _ field => some s!"provide a value for `{field}`"
      | .unexpectedField _ field => some s!"remove `{field}`"
      | .recursionLimit .. => some "raise `max_call_depth` or make the recursion terminate"
      | _ => none

end Error

/-! ### Reports -/

/-- A text on lines of `limit` columns, the first behind `first` and the others behind `rest`. -/
def Report.indented (first rest : String) (limit : Nat) (s : String) : List String :=
  match Text.wrap limit s with
  | [] => []
  | line :: lines => (first ++ line) :: lines.map (rest ++ ·)

/-- The lines of a message. -/
def Report.message (s : String) : List String :=
  indented "  × " "  │ " 194 s

/-- The lines of a hint. -/
def Report.hint (s : String) : List String :=
  indented "  help: " "        " 188 s

/-- The report of an error in `source`, a text called `name`. A place beyond the text cannot be
shown; the report is then the message alone. -/
def Error.render (name source : String) (e : Error) : String :=
  let whole (excerpt : List String) : String :=
    let hint := (e.help.map Report.hint).getD []
    String.join ((Report.message e.message ++ excerpt ++ hint).map (· ++ "\n"))
  match e.span with
  | none => whole []
  | some span =>
      if Excerpt.outside source span then "Runtime error: " ++ e.message
      else whole (Excerpt.draw name source span e.label)

end RecordLang
