import RecordLang.Config

/-!
Settings read from a configuration text.

The text is in the TOML format. Of its documents exactly those are settings that give no more than a
policy under `redefinition` and an integer between 0 and 2⁶³ - 1 under `max_call_depth`, each at most
once. The policy is a string, or a table whose one entry has the policy for its key and holds nothing:
an empty table or an empty array. All other documents are refused, so what the reader does not know
(other tables, arrays, dates, …) need not be told apart. A reader of one piece answers with the piece
and the text behind it.

* `Toml.lines`: the headers and assignments of a text.
* `Draft.add?`: what one more line says about the settings.
* `Config.ofText?`: the settings a text describes.
* `Config.load`: the same for the bytes of a file.
-/

namespace RecordLang

namespace Toml

/-- A value that a setting may have: a string, a natural number, nothing (a table or an array without
entries), or a table with one entry that holds nothing. -/
inductive Value where
  | text (s : String)
  | whole (n : Nat)
  | nothing
  | single (key : String)

/-- A line that is not blank: the header of a table, or an assignment of a value to a key, both given
by the path that leads there. -/
inductive Line where
  | header (path : List String)
  | assignment (path : List String) (value : Value)

/-! ### Blanks and line ends -/

/-- Whether a character separates words within a line. -/
def isBlank (c : Char) : Bool :=
  c == ' ' || c == '\t'

/-- The text behind its leading blanks. -/
def skipBlanks (cs : List Char) : List Char :=
  cs.dropWhile isBlank

/-- Whether a character may stand in a comment or, quotes and backslashes apart, in a string. -/
def isPrinting (c : Char) : Bool :=
  c == '\t' || (' ' ≤ c && c != '\x7f')

/-- The text behind the line break at its head. -/
def lineBreak? : List Char → Option (List Char)
  | '\n' :: rest => some rest
  | '\r' :: '\n' :: rest => some rest
  | _ => none

/-- The text behind the rest of a line that holds nothing but blanks and a comment. -/
def lineEnd? (cs : List Char) : Option (List Char) :=
  let cs := skipBlanks cs
  let cs := match cs with
    | '#' :: rest => rest.dropWhile isPrinting
    | _ => cs
  if cs.isEmpty then some [] else lineBreak? cs

/-! ### Strings -/

/-- The number that hexadecimal digits stand for. -/
def hexNumber? (digits : List Char) : Option Nat :=
  digits.foldlM (fun n c =>
    if c.isDigit then some (16 * n + (c.toNat - '0'.toNat))
    else if 'a' ≤ c && c ≤ 'f' then some (16 * n + (c.toNat - 'a'.toNat + 10))
    else if 'A' ≤ c && c ≤ 'F' then some (16 * n + (c.toNat - 'A'.toNat + 10))
    else none) 0

/-- The character that hexadecimal digits number. -/
def numbered? (digits : List Char) : Option Char := do
  let n ← hexNumber? digits
  if n.isValidChar then some (Char.ofNat n) else none

/-- The character that a one-letter escape stands for. -/
def escaped? : Char → Option Char
  | 'b' => some '\x08'
  | 't' => some '\t'
  | 'n' => some '\n'
  | 'f' => some '\x0c'
  | 'r' => some '\r'
  | '"' => some '"'
  | '\\' => some '\\'
  | _ => none

/-- Puts a character in front of what was found. -/
def prepend (c : Char) (found : Option (List Char × List Char)) : Option (List Char × List Char) :=
  found.map fun (s, rest) => (c :: s, rest)

/-- The rest of a one-line string in double quotes. -/
def basic : List Char → Option (List Char × List Char)
  | '"' :: rest => some ([], rest)
  | '\\' :: 'u' :: a :: b :: c :: d :: rest => do
      let x ← numbered? [a, b, c, d]
      prepend x (basic rest)
  | '\\' :: 'U' :: a :: b :: c :: d :: e :: f :: g :: h :: rest => do
      let x ← numbered? [a, b, c, d, e, f, g, h]
      prepend x (basic rest)
  | '\\' :: c :: rest => do
      let x ← escaped? c
      prepend x (basic rest)
  | c :: rest => if isPrinting c && c != '\\' then prepend c (basic rest) else none
  | [] => none

/-- The rest of a one-line string in single quotes. -/
def literal : List Char → Option (List Char × List Char)
  | '\'' :: rest => some ([], rest)
  | c :: rest => if isPrinting c then prepend c (literal rest) else none
  | [] => none

/-- Where a reader stands with respect to a backslash that ends a line: not behind one, behind one
but still on its line, or among the blanks and line breaks that it removes. -/
inductive Fold where
  | none
  | line
  | blank
deriving DecidableEq

/-- The rest of a string in triple double quotes. -/
def multiBasic : Fold → List Char → Option (List Char × List Char)
  | .line, '\n' :: rest => multiBasic .blank rest
  | .line, '\r' :: '\n' :: rest => multiBasic .blank rest
  | .line, c :: rest => if isBlank c then multiBasic .line rest else none
  | .blank, '\n' :: rest => multiBasic .blank rest
  | .blank, '\r' :: '\n' :: rest => multiBasic .blank rest
  | _, '"' :: '"' :: '"' :: rest => some ([], rest)
  | _, '\\' :: 'u' :: a :: b :: c :: d :: rest => do
      let x ← numbered? [a, b, c, d]
      prepend x (multiBasic .none rest)
  | _, '\\' :: 'U' :: a :: b :: c :: d :: e :: f :: g :: h :: rest => do
      let x ← numbered? [a, b, c, d, e, f, g, h]
      prepend x (multiBasic .none rest)
  | _, '\\' :: c :: rest =>
      match escaped? c with
      | some x => prepend x (multiBasic .none rest)
      | none =>
          if c == '\n' then multiBasic .blank rest
          else if isBlank c || c == '\r' && rest.head? == some '\n' then multiBasic .line rest
          else none
  | _, '\n' :: rest => prepend '\n' (multiBasic .none rest)
  | _, '\r' :: '\n' :: rest => prepend '\n' (multiBasic .none rest)
  | mode, c :: rest =>
      if mode == .blank && isBlank c then multiBasic .blank rest
      else if isPrinting c && c != '\\' then prepend c (multiBasic .none rest)
      else none
  | _, [] => none

/-- The rest of a string in triple single quotes. -/
def multiLiteral : List Char → Option (List Char × List Char)
  | '\'' :: '\'' :: '\'' :: rest => some ([], rest)
  | '\n' :: rest => prepend '\n' (multiLiteral rest)
  | '\r' :: '\n' :: rest => prepend '\n' (multiLiteral rest)
  | c :: rest => if isPrinting c then prepend c (multiLiteral rest) else none
  | [] => none

/-- The text behind a line break at its head, if there is one. -/
def skipBreak (cs : List Char) : List Char :=
  (lineBreak? cs).getD cs

/-- What was found, as a string. -/
def asString (found : Option (List Char × List Char)) : Option (String × List Char) :=
  found.map fun (s, rest) => (String.ofList s, rest)

/-- The string at the head of a text. -/
def string? : List Char → Option (String × List Char)
  | '"' :: '"' :: '"' :: rest => asString (multiBasic .none (skipBreak rest))
  | '"' :: rest => asString (basic rest)
  | '\'' :: '\'' :: '\'' :: rest => asString (multiLiteral (skipBreak rest))
  | '\'' :: rest => asString (literal rest)
  | _ => none

/-! ### Integers -/

/-- The digits of a number written with single underscores between them. -/
def digits? (isDigit : Char → Bool) : List Char → Option (List Char)
  | [] => none
  | [c] => if isDigit c then some [c] else none
  | c :: '_' :: rest =>
      if isDigit c then (digits? isDigit rest).map (c :: ·) else none
  | c :: rest => if isDigit c then (digits? isDigit rest).map (c :: ·) else none

/-- The number that digits in `base` stand for. -/
def number? (base : Nat) (word : List Char) : Option Nat := do
  let inBase (c : Char) : Bool := (hexNumber? [c]).any (· < base)
  let digits ← digits? inBase word
  digits.foldlM (fun n c => (hexNumber? [c]).map (base * n + ·)) 0

/-- The natural number written as a decimal integer: no leading zero, a minus sign only before zero. -/
def decimal? (word : List Char) : Option Nat :=
  let unsigned := match word with
    | '+' :: rest => rest
    | '-' :: rest => rest
    | _ => word
  let leadingZero := unsigned.head? == some '0' && unsigned.length != 1
  if leadingZero then none
  else
    match number? 10 unsigned with
    | some n => if word.head? == some '-' && n != 0 then none else some n
    | none => none

/-- The natural number that a word stands for. -/
def natural? (word : List Char) : Option Nat := do
  let n ← match word with
    | '0' :: 'x' :: rest => number? 16 rest
    | '0' :: 'o' :: rest => number? 8 rest
    | '0' :: 'b' :: rest => number? 2 rest
    | _ => decimal? word
  if n < Nat.pow 2 63 then some n else none

/-! ### Keys -/

/-- Whether a character may stand in an unquoted key. -/
def isBare (c : Char) : Bool :=
  c.isAlphanum || c == '_' || c == '-'

/-- The key at the head of a text. -/
def key? : List Char → Option (String × List Char)
  | '"' :: rest => asString (basic rest)
  | '\'' :: rest => asString (literal rest)
  | cs =>
      match cs.takeWhile isBare with
      | [] => none
      | word => some (String.ofList word, cs.dropWhile isBare)

/-- The path of fewer than `fuel` keys at the head of a text. -/
def pathWithin : Nat → List Char → Option (List String × List Char)
  | 0, _ => none
  | fuel + 1, cs => do
      let (key, rest) ← key? cs
      let rest := skipBlanks rest
      match rest with
      | '.' :: rest =>
          let (keys, rest) ← pathWithin fuel (skipBlanks rest)
          some (key :: keys, rest)
      | _ => some ([key], rest)

/-- The path at the head of a text: keys with dots between them, without the blanks behind it. -/
def path? (cs : List Char) : Option (List String × List Char) :=
  pathWithin (cs.length + 1) cs

/-! ### Values -/

/-- The text behind an array that is open and has no entries: blanks, line breaks and comments up to
its closing bracket. `comment` says whether the text begins within a comment. -/
def emptyArray? (comment : Bool) : List Char → Option (List Char)
  | '\n' :: rest => emptyArray? false rest
  | '\r' :: '\n' :: rest => emptyArray? false rest
  | c :: rest =>
      if comment then
        if isPrinting c then emptyArray? true rest else none
      else if c == ']' then some rest
      else if c == '#' then emptyArray? true rest
      else if isBlank c then emptyArray? false rest
      else none
  | [] => none

/-- The text behind a table or an array without entries. -/
def nothing? : List Char → Option (List Char)
  | '\x7b' :: rest =>
      match skipBlanks rest with
      | '\x7d' :: rest => some rest
      | _ => none
  | '[' :: rest => emptyArray? false rest
  | _ => none

/-- The rest of a table in braces whose one entry holds nothing, with the key of the entry. -/
def single? (cs : List Char) : Option (String × List Char) := do
  let (key, rest) ← key? (skipBlanks cs)
  match skipBlanks rest with
  | '=' :: rest =>
      let rest ← nothing? (skipBlanks rest)
      match skipBlanks rest with
      | '\x7d' :: rest => some (key, rest)
      | _ => none
  | _ => none

/-- The value at the head of a text. -/
def value? (cs : List Char) : Option (Value × List Char) :=
  match cs with
  | '"' :: _ | '\'' :: _ => (string? cs).map fun (s, rest) => (.text s, rest)
  | '[' :: _ => (nothing? cs).map fun rest => (.nothing, rest)
  | '\x7b' :: inner =>
      match nothing? cs with
      | some rest => some (.nothing, rest)
      | none => (single? inner).map fun (key, rest) => (.single key, rest)
  | _ =>
      let inNumber (c : Char) : Bool := isBare c || c == '+'
      (natural? (cs.takeWhile inNumber)).map fun n => (.whole n, cs.dropWhile inNumber)

/-! ### Documents -/

/-- The header behind its opening bracket. -/
def header? (cs : List Char) : Option (Line × List Char) := do
  let (path, rest) ← path? (skipBlanks cs)
  match rest with
  | ']' :: rest => some (.header path, rest)
  | _ => none

/-- The assignment at the head of a text. -/
def assignment? (cs : List Char) : Option (Line × List Char) := do
  let (path, rest) ← path? cs
  match rest with
  | '=' :: rest =>
      let (value, rest) ← value? (skipBlanks rest)
      some (.assignment path value, rest)
  | _ => none

/-- The header or assignment at the head of a text, and the text behind its line. -/
def line? (cs : List Char) : Option (Line × List Char) := do
  let (line, rest) ← match cs with
    | '[' :: rest => header? rest
    | _ => assignment? cs
  let rest ← lineEnd? rest
  some (line, rest)

/-- The headers and assignments of a text of fewer than `fuel` lines. -/
def linesWithin : Nat → List Char → Option (List Line)
  | _, [] => some []
  | 0, _ => none
  | fuel + 1, cs =>
      match lineEnd? cs with
      | some rest => linesWithin fuel rest
      | none => do
          let (line, rest) ← line? (skipBlanks cs)
          let lines ← linesWithin fuel rest
          some (line :: lines)

/-- The headers and assignments of a text in order; a byte order mark in front is ignored. -/
def lines (source : String) : Option (List Line) :=
  let cs := match source.toList with
    | '\ufeff' :: rest => rest
    | cs => cs
  linesWithin (cs.length + 1) cs

end Toml

/-- Why settings could not be had: no text, or a text that is no settings. -/
inductive ConfigError where
  | unreadable
  | malformed
deriving DecidableEq

/-- The settings as far as the lines read so far give them. -/
structure Draft where
  /-- The greatest number of calls. -/
  limit : Option Nat := none
  /-- The policy. -/
  policy : Option Redefinition := none
  /-- Whether the policy is the name of a table with a header of its own. A table written in any other
  way is closed, and no header may name it or the table around it again. -/
  named : Bool := false
  /-- Whether the table around the policy has had its header. -/
  opened : Bool := false
  /-- The path of the table that assignments go into. -/
  here : List String := []

namespace Draft

/-- The draft with the policy called `word`, which must be the first one. -/
def choose? (d : Draft) (word : String) : Option Draft :=
  match d.policy, Redefinition.ofText? word with
  | none, some policy => some { d with policy := some policy }
  | _, _ => none

/-- The draft with one more header. -/
def enter? (d : Draft) : List String → Option Draft
  | ["redefinition"] =>
      if d.opened || d.policy.isSome && !d.named then none
      else some { d with opened := true, here := ["redefinition"] }
  | ["redefinition", word] =>
      (d.choose? word).map fun d => { d with named := true, here := ["redefinition", word] }
  | _ => none

/-- The draft with one more assignment, the path counted from the top. -/
def assign? (d : Draft) : List String → Toml.Value → Option Draft
  | ["max_call_depth"], .whole n =>
      if d.limit.isNone then some { d with limit := some n } else none
  | ["redefinition"], .text word => d.choose? word
  | ["redefinition"], .single word => d.choose? word
  | ["redefinition", word], .nothing => d.choose? word
  | _, _ => none

/-- The draft with one more line. -/
def add? (d : Draft) : Toml.Line → Option Draft
  | .header path => d.enter? path
  | .assignment path value => d.assign? (d.here ++ path) value

/-- The settings of a finished draft; what it leaves open keeps its default. A table for the policy
must have one. -/
def config? (d : Draft) : Option Config :=
  let c : Config := {}
  if d.opened && d.policy.isNone then none
  else some ⟨d.policy.getD c.redefinition, d.limit.getD c.maxCallDepth⟩

end Draft

namespace Config

/-- The settings that a text describes. -/
def ofText? (source : String) : Option Config := do
  let lines ← Toml.lines source
  let draft ← lines.foldlM Draft.add? {}
  draft.config?

/-- The settings in the bytes of a file, `none` if the file could not be read. -/
def load (bytes : Option ByteArray) : Except ConfigError Config :=
  match bytes.bind String.fromUTF8? with
  | none => .error .unreadable
  | some source =>
      match ofText? source with
      | none => .error .malformed
      | some c => .ok c

end Config

end RecordLang
