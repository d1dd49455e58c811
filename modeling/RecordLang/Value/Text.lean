import RecordLang.Store
import RecordLang.Text.Quoted

/-!
The text of a value.

A string is its own text, but inside a list or a record it is quoted. Lists are written in brackets,
records in parentheses, objects with the name of their class in front; classes, groups and functions
in angle brackets.

* `Value.text`: the text of a value in a store.
-/

namespace RecordLang.Value

/-- Written in place of a container nested deeper than there are containers: one that holds itself. -/
def cycleText : String :=
  "..."

/-- A string as it stands inside a container, any other text as it is. -/
def nestedText (text : Value → String) : Value → String
  | .string s => Text.quoted s
  | v => text v

/-- The text of an item list. -/
def itemsText (text : Value → String) (items : Array Value) : String :=
  "[" ++ ", ".intercalate (items.toList.map (nestedText text)) ++ "]"

/-- The text of a field table. -/
def fieldsText (text : Value → String) (fields : Table Value) : String :=
  "(" ++ ", ".intercalate (fields.entries.map fun f => f.1 ++ ": " ++ nestedText text f.2) ++ ")"

/-- The text of a value nested at most `depth` containers deep. -/
def textWithin (st : Store) : Nat → Value → String
  | _, .number x => Decimal.plain x
  | _, .string s => s
  | _, .boolean b => if b then "true" else "false"
  | _, .nil => "nil"
  | 0, .list _ => cycleText
  | depth + 1, .list r => itemsText (textWithin st depth) (st.list r)
  | 0, .record _ => cycleText
  | depth + 1, .record r => fieldsText (textWithin st depth) (st.record r)
  | 0, .object _ _ => cycleText
  | depth + 1, .object c r => c.displayName ++ fieldsText (textWithin st depth) (st.record r)
  | _, .ofClass c => "<class " ++ c.displayName ++ ">"
  | _, .ofGroup g => "<group " ++ g.name ++ ">"
  | _, .function f => "<match function " ++ f.name ++ ">"
  | _, .lambda _ => "<function>"
  | _, .native f => "<native " ++ f.name ++ ">"

/-- The text of a value. Containers without cycles are nested at most as deep as there are
containers. -/
def text (st : Store) (v : Value) : String :=
  textWithin st st.containers v

end RecordLang.Value
