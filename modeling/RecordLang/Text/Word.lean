import RecordLang.Text.BreakClass
import RecordLang.Text.Control

/-!
Words: the pieces between the places where a line may break.

A line may break behind spaces and between some characters that stand side by side, by the classes of
the line breaking algorithm of the Unicode standard. A mark belongs to the character that it extends,
and a control sequence to the character behind it. A hyphen does not end a word here: where a line may
break at a hyphen is for whoever fills the lines.

* `BreakClass.joins`, `BreakClass.joinsAcross`: which classes no line break can part.
* `BreakContext`: what the characters before a place mean for a break there.
* `Text.words`: the words of a text, the spaces behind a word included.
-/

namespace RecordLang.Text

/-! ### Where lines may break -/

namespace BreakClass

/-- Whether no line breaks between two characters with spaces between them; `none` stands for the start
of the text. -/
def joinsAcross (a : Option BreakClass) (b : BreakClass) : Bool :=
  b.isIn [lineEnd, gap]
  || a != some .gap &&
    (b.isIn [wordJoiner, closing, parenthesis, exclamation, separator, slash]
    || a = some .opening
    || a = some .quotation && b = .opening
    || a.any (·.isIn [closing, parenthesis]) && b = .nonstarter
    || a = some .dash && b = .dash)

/-- Pairs of lists of classes: no line breaks between a character of the first list and one of the
second that stand side by side. -/
def joined : List (List BreakClass × List BreakClass) :=
  let word := [letter, hebrew, digit]
  let signs := [currency, percent]
  let pictures := [ideograph, base, modifier]
  let hangul := [initial, vowel, final, syllable, closedSyllable]
  [(word, word), (word, [opening]), ([parenthesis, separator], word),
   ([hyphen, slash], [digit]), ([slash], [hebrew]),
   (signs, opening :: word), (closing :: parenthesis :: word, signs),
   ([currency], pictures ++ hangul), (pictures ++ hangul, [percent]),
   ([initial], [initial, vowel, syllable, closedSyllable]), ([vowel, syllable], [vowel, final]),
   ([final, closedSyllable], [final]), ([base], [modifier])]

/-- Whether no line breaks between two characters side by side. The first is not a space and does not
end a line, and neither is a mark. -/
def joins (a b : BreakClass) : Bool :=
  b = .space || joinsAcross (some a) b
  || a != .gap &&
    (a.isIn [wordJoiner, glue, quotation] || b = .quotation
    || b = .glue && !a.isIn [trailing, hyphen]
    || a != .object && b != .object &&
      (a = .leading || b.isIn [trailing, hyphen, nonstarter, leader]
      || joined.any fun (as, bs) => a.isIn as && b.isIn bs))

end BreakClass

/-- What the text up to some place means for a break there. -/
structure BreakContext where
  /-- The class of the last character that is not a space; `none` at the start of a line. -/
  last : Option BreakClass := none
  /-- Whether spaces follow that character. -/
  spaced : Bool := false
  /-- Whether a joiner stands right before the place. -/
  joiner : Bool := false
  /-- Whether the last character is a hyphen, or ends a word, behind a Hebrew letter. -/
  hebrew : Bool := false
  /-- Whether the last character is the first half of a flag. -/
  half : Bool := false

namespace BreakContext

/-- Whether a mark at this place extends the character before it. -/
def attaches (x : BreakContext) : Bool :=
  !x.spaced && x.last.any fun k => !k.isIn [.lineEnd, .gap]

/-- Whether a line may break before a character of the given class. A mark without a character to extend
is like a letter. -/
def breaksBefore (x : BreakContext) (k : BreakClass) : Bool :=
  let isMark := k.isIn [.mark, .joiner]
  let k' := if isMark then .letter else k
  if x.last = some .lineEnd then true
  else if k = .space || isMark && x.attaches || x.joiner then false
  else if x.spaced then !BreakClass.joinsAcross x.last k'
  else
    x.last.any fun a =>
      !(a.joins k' || x.hebrew && k' != .object || x.half && k' = .indicator)

/-- The context behind a character of the given class. -/
def next (x : BreakContext) (k : BreakClass) : BreakContext :=
  if k = .space then { last := if x.last = some .lineEnd then none else x.last, spaced := true }
  else if k.isIn [.mark, .joiner] then
    if x.attaches then { x with joiner := k = .joiner }
    else { last := some .letter, joiner := k = .joiner }
  else
    { last := some k
      hebrew := !x.spaced && x.last = some .hebrew && k.isIn [.hyphen, .trailing]
      half := k = .indicator && !x.half }

end BreakContext

/-! ### Words -/

/-- The shown characters of a text that stands at `place`, each with the place where it may be parted
from the one before: in front of the control sequences between the two. For the first this is `cut`. -/
def shownFrom (cut place : Nat) : List (Char × Role) → List (Nat × Char)
  | [] => []
  | (c, .shown) :: rest => (cut, c) :: shownFrom (place + 1) (place + 1) rest
  | (_, .swallowed) :: rest => shownFrom (place + 1) (place + 1) rest
  | (_, .control) :: rest => shownFrom cut (place + 1) rest

/-- The places where a text may break, its end included: each with the character before it. Given are
the shown characters behind `before`. -/
def breaksFrom (x : BreakContext) (stop : Nat) (before : Char) :
    List (Nat × Char) → List (Nat × Char)
  | [] => [(stop, before)]
  | (place, c) :: rest =>
      let k := BreakClass.ofChar c
      let breaks := breaksFrom (x.next k) stop c rest
      if x.breaksBefore k then (place, before) :: breaks else breaks

/-- The pieces of a list that are cut at the given places, counted from `start`; there is none behind
the last place if the list ends there. -/
def cutAt {α : Type} (start : Nat) : List Nat → List α → List (List α)
  | [], xs => if xs.isEmpty then [] else [xs]
  | p :: ps, xs => xs.take (p - start) :: cutAt p ps (xs.drop (p - start))

/-- The pieces of a list make up the list. -/
theorem flatten_cutAt {α : Type} (start : Nat) (ps : List Nat) (xs : List α) :
    (cutAt start ps xs).flatten = xs := by
  induction ps generalizing start xs with
  | nil => cases xs <;> simp [cutAt]
  | cons p ps ih => simp [cutAt, ih, List.take_append_drop]

/-- The words of a text. It is cut where it may break and no hyphen stands before, but not at the last
of these places, which is the end of the text unless that is behind a hyphen. -/
def words (cs : List Char) : List (List Char) :=
  let places := (breaksFrom {} cs.length ' ' (shownFrom 0 0 (roles cs))).filter fun b =>
    b.2 != '-' && b.2 != '\u00ad'
  cutAt 0 (places.map Prod.fst).dropLast cs

/-- The words of a text make up the text. -/
theorem flatten_words (cs : List Char) : (words cs).flatten = cs :=
  flatten_cutAt _ _ _

end RecordLang.Text
