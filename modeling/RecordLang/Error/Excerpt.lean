import RecordLang.Span
import RecordLang.Text.Width

/-!
Excerpts: the lines around a place in a text, with the place marked.

Offsets count bytes. A line ends with a line feed, alone or behind a carriage return; a carriage return
alone stays part of its line, but counts as a line break when the excerpt is chosen.

* `Excerpt.window`: the part of a text that is shown.
* `Excerpt.lines`: its lines.
* `Excerpt.draw`: the excerpt with the place underlined and labelled.
-/

namespace RecordLang.Excerpt

/-! ### Choosing the lines -/

/-- The line breaks of a text that stands at `offset`, each as the bytes that it takes. -/
def breaks (offset : Nat) : List Char → List Span
  | [] => []
  | '\r' :: '\n' :: cs => ⟨offset, offset + 2⟩ :: breaks (offset + 2) cs
  | c :: cs =>
      if c == '\n' || c == '\r' then ⟨offset, offset + 1⟩ :: breaks (offset + 1) cs
      else breaks (offset + c.utf8Size) cs

/-- A part of a text: the bytes that it takes and the number of its first line. -/
structure Window where
  span : Span
  first : Nat

/-- The part of a text shown for a place in it: from the line before the place to the line after it. -/
def window (source : String) (place : Span) : Window :=
  let all := breaks 0 source.toList
  let before := all.filter (·.stop ≤ place.start)
  let after := all.filter (place.start + place.length - 1 < ·.start)
  let start := (before.dropLast.getLast?.map Span.stop).getD 0
  let stop := (after[1]?.map Span.stop).getD source.utf8ByteSize
  ⟨⟨start, stop⟩, max 1 before.length⟩

/-- The bytes of a text. -/
def byteCount (cs : List Char) : Nat :=
  cs.foldr (fun c n => c.utf8Size + n) 0

/-- The characters of a text within its first `n` bytes. -/
def takeBytes (n : Nat) : List Char → List Char
  | [] => []
  | c :: cs => if c.utf8Size ≤ n then c :: takeBytes (n - c.utf8Size) cs else []

/-- The characters of a text behind its first `n` bytes. -/
def dropBytes (n : Nat) : List Char → List Char
  | [] => []
  | c :: cs => if c.utf8Size ≤ n then dropBytes (n - c.utf8Size) cs else c :: cs

/-- The lines of a text, each with the number of bytes of the line break behind it. -/
def pieces : List Char → List (List Char × Nat)
  | [] => []
  | '\n' :: cs => ([], 1) :: pieces cs
  | '\r' :: '\n' :: cs => ([], 2) :: pieces cs
  | c :: cs =>
      match pieces cs with
      | [] => [([c], 0)]
      | (text, ending) :: rest => (c :: text, ending) :: rest

/-- A line of an excerpt. -/
structure Line where
  number : Nat
  /-- The bytes it takes, those of its line break included. -/
  span : Span
  text : List Char

/-- Lines with their numbers and places. A line without a line break that ends with a carriage return
has the number of the line before. -/
def linesFrom (number offset : Nat) : List (List Char × Nat) → List Line
  | [] => []
  | (text, ending) :: rest =>
      let stop := offset + byteCount text + ending
      let number' := if ending = 0 && text.getLast? == some '\r' then number - 1 else number
      ⟨number', ⟨offset, stop⟩, text⟩ :: linesFrom (number + 1) stop rest

/-- The lines in a part of a text. -/
def lines (source : String) (w : Window) : List Line :=
  linesFrom w.first w.span.start
    (pieces (takeBytes w.span.length (dropBytes w.span.start source.toList)))

/-! ### Columns -/

/-- The column behind a text that begins in column `column`; tabulators stop at every fourth column. -/
def columnBehind (column : Nat) (cs : List Char) : Nat :=
  cs.foldl (fun column c => column + if c == '\t' then 4 - column % 4 else Text.columns c) column

/-- A text that begins in column `column` with its tabulators filled with spaces. -/
def untabbed (column : Nat) : List Char → List Char
  | [] => []
  | c :: cs =>
      let next := columnBehind column [c]
      (if c == '\t' then List.replicate (next - column) ' ' else [c]) ++ untabbed next cs

/-- The column of an offset in a line; all offsets within the line break are in one column. -/
def Line.column (line : Line) (offset : Nat) : Nat :=
  let n := offset - line.span.start
  columnBehind 0 (takeBytes n line.text) + if byteCount line.text < n then 1 else 0

/-! ### Drawing -/

/-- How a place lies to a line: elsewhere, within it, or in several lines of which it is the first, the
last or one between. -/
inductive Part where
  | none
  | whole
  | first
  | inner
  | last
deriving DecidableEq

/-- How a place lies to a line. -/
def Line.part (line : Line) (place : Span) : Part :=
  let stop := place.start + place.length
  if line.span.start ≤ place.start then
    if line.span.stop ≤ place.start then .none
    else if stop ≤ line.span.stop then .whole
    else .first
  else if line.span.stop < stop then .inner
  else if line.span.start < stop then .last
  else .none

/-- `n` copies of a character. -/
def repeated (n : Nat) (c : Char) : String :=
  String.ofList (List.replicate n c)

/-- The number `n`, right aligned in `width` columns. -/
def aligned (width n : Nat) : String :=
  let digits := Nat.repr n
  repeated (width - digits.length) ' ' ++ digits

/-- What stands between the number and the text of a line when the place lies in several lines. -/
def Part.arrow : Part → String
  | .first => "╭─▶ "
  | .inner => "│   "
  | .last => "├─▶ "
  | .none | .whole => "    "

/-- The lines under a line that mark the place in it and give it its label, without their margin. A
place within the line is underlined, and the mark in the middle points to the label. -/
def Line.marks (line : Line) (place : Span) (label : String) : List String :=
  match line.part place with
  | .whole =>
      let start := line.column place.start
      let stop := max (line.column (place.start + place.length)) (start + 1)
      let middle := (start + stop) / 2
      let mark := if place.length = 0 then "▲" else "┬"
      [repeated start ' ' ++ repeated (middle - start) '─' ++ mark ++ repeated (stop - middle - 1) '─',
       repeated middle ' ' ++ "╰── " ++ label]
  | .last => ["╰──── " ++ label]
  | .none | .first | .inner => []

/-- The lines of the excerpt around a place in a text called `name`. -/
def draw (name source : String) (place : Span) (label : String) : List String :=
  let window := window source place
  let lines := lines source window
  let width := (Nat.repr ((lines.getLast?.map Line.number).getD 0)).length
  let margin := repeated (width + 2) ' '
  let several := lines.any fun line => [.first, .inner, .last].contains (line.part place)
  let body := lines.flatMap fun line =>
    let arrow := if several then (line.part place).arrow else ""
    (" " ++ aligned width line.number ++ " │ " ++ arrow ++ String.ofList (untabbed 0 line.text))
      :: (line.marks place label).map fun mark => " " ++ repeated width ' ' ++ " · " ++ mark
  [margin ++ "╭─[" ++ name ++ ":" ++ Nat.repr window.first ++ ":1]"] ++ body ++ [margin ++ "╰────"]

/-- Whether a place ends beyond the text, the offset right behind its end not counted. -/
def outside (source : String) (place : Span) : Bool :=
  source.utf8ByteSize + 1 < place.start + place.length

end RecordLang.Excerpt
