import RecordLang.Error

/-!
The console: what evaluation leaves behind for the outside.

A console holds the lines logged so far and the first failure. What a terminal shows is read off it:
the lines on one stream, the failure on the other.

* `Console.log`, `Console.fail`: the two effects of evaluation.
* `Console.output`, `Console.errors`: the two streams.
-/

namespace RecordLang

/-- The lines logged, in order, and the first failure. -/
structure Console where
  lines : Array String := #[]
  failure : Option Error := none

namespace Console

/-- Logs one line: the parts joined by spaces. -/
def log (c : Console) (parts : List String) : Console :=
  { c with lines := c.lines.push (" ".intercalate parts) }

/-- Records a failure; only the first is kept. -/
def fail (c : Console) (e : Error) : Console :=
  { c with failure := c.failure.or (some e) }

/-- The lines as text. -/
def output (c : Console) : String :=
  String.join (c.lines.toList.map (· ++ "\n"))

/-- The failure as text. -/
def errors (c : Console) : String :=
  match c.failure with
  | some e => "Runtime error: " ++ e.message ++ "\n"
  | none => ""

end Console

end RecordLang
