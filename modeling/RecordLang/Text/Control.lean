import RecordLang.Text.Width

/-!
Control sequences: what a terminal takes as a command and does not show.

A sequence is the escape character, a left bracket, and everything up to the first character from `@` to
`~`. An escape character without a bracket swallows the character behind it, and one whose sequence does
not end swallows the rest of the text.

* `Text.roles`: the characters of a text with what becomes of each.
* `Text.width`: the columns of a text, of which control sequences take none.
-/

namespace RecordLang.Text

/-- What becomes of a character on a terminal. -/
inductive Role where
  | shown
  /-- It is part of a control sequence. -/
  | control
  /-- It disappears with the escape character before it. -/
  | swallowed
deriving DecidableEq

/-- Whether a character ends a control sequence. -/
def isFinal (c : Char) : Bool :=
  '@' ≤ c && c ≤ '~'

/-- The role of an escape character before the given text, and the number of characters of this text
that go with it. -/
def escapeRole : List Char → Role × Nat
  | '[' :: cs =>
      match cs.findIdx? isFinal with
      | some n => (.control, n + 2)
      | none => (.shown, cs.length + 1)
  | _ => (.shown, 1)

/-- The characters of a text with their roles, where the first `pending` ones go with the characters
before them and have the role `role`. -/
def rolesFrom (pending : Nat) (role : Role) : List Char → List (Char × Role)
  | [] => []
  | c :: cs =>
      match pending with
      | n + 1 => (c, role) :: rolesFrom n role cs
      | 0 =>
          if c == '\x1b' then
            match escapeRole cs with
            | (.shown, n) => (c, .shown) :: rolesFrom n .swallowed cs
            | (role, n) => (c, role) :: rolesFrom n role cs
          else (c, .shown) :: rolesFrom 0 .shown cs

/-- The characters of a text with what becomes of each. -/
def roles (cs : List Char) : List (Char × Role) :=
  rolesFrom 0 .shown cs

/-- The columns of a character in the given role. -/
def Role.columns (role : Role) (c : Char) : Nat :=
  if role = .shown then Text.columns c else 0

/-- The columns of a text. -/
def width (cs : List Char) : Nat :=
  (roles cs).foldr (fun (c, role) n => role.columns c + n) 0

/-! ### Lemmas -/

theorem map_fst_rolesFrom (pending : Nat) (role : Role) (cs : List Char) :
    (rolesFrom pending role cs).map Prod.fst = cs := by
  induction cs generalizing pending role with
  | nil => rfl
  | cons c cs ih =>
      unfold rolesFrom
      repeat' split
      all_goals simp [ih]

/-- Every character of a text has a role, and none is lost. -/
theorem map_fst_roles (cs : List Char) : (roles cs).map Prod.fst = cs :=
  map_fst_rolesFrom 0 .shown cs

theorem rolesFrom_of_not_mem (cs : List Char) (h : '\x1b' ∉ cs) :
    rolesFrom 0 .shown cs = cs.map fun c => (c, .shown) := by
  induction cs with
  | nil => rfl
  | cons c cs ih =>
      simp only [List.mem_cons, not_or] at h
      have hc : ¬ c = '\x1b' := fun e => h.1 e.symm
      simp [rolesFrom, hc, ih h.2]

/-- A text without escape characters is as wide as its characters together. -/
theorem width_of_not_mem (cs : List Char) (h : '\x1b' ∉ cs) :
    width cs = cs.foldr (fun c n => columns c + n) 0 := by
  simp [width, roles, rolesFrom_of_not_mem cs h, Role.columns, List.foldr_map]

end RecordLang.Text
