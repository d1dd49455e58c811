/-!
Settings of the evaluator.

* `Redefinition`: what happens when a name is defined twice in one frame.
* `Config`: the policy together with the greatest number of calls that may be active at once.
-/

namespace RecordLang

/-- What a second definition of a name in the same frame does. -/
inductive Redefinition where
  /-- The earlier binding is overwritten and a warning is logged. -/
  | permissive
  /-- The second definition is an error. -/
  | strict
deriving DecidableEq

/-- The word for a policy. -/
def Redefinition.text : Redefinition → String
  | .permissive => "permissive"
  | .strict => "strict"

/-- The policy with the given word. -/
def Redefinition.ofText? (s : String) : Option Redefinition :=
  [.permissive, .strict].find? (·.text == s)

/-- The settings of an evaluator; the defaults are permissive redefinition and 256 calls. -/
structure Config where
  redefinition : Redefinition := .permissive
  maxCallDepth : Nat := 256
deriving DecidableEq

instance : Inhabited Config :=
  ⟨{}⟩

/-- Reading back the word of a policy gives the policy. -/
theorem Redefinition.ofText?_text (p : Redefinition) : ofText? p.text = some p := by
  cases p <;> rfl

end RecordLang
