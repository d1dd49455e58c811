import RecordLang.Text.Alphanumeric
import RecordLang.Text.Word

/-!
Wrapped text: a text on lines of a given width.

Lines are filled so that the whole looks even. Every way to lay out the fragments of a paragraph has a
cost, which grows with the number of lines and with the square of the room left on each, and a
cheapest one is taken. It is found from left to right: a layout of the first fragments ends with a line
that follows a cheapest layout of fewer fragments.

* `Fragment`: a piece of text that stays on one line.
* `Layout.extend`: a cheapest layout, from those of all shorter beginnings.
* `Layout.cheapest_eq_foldl`: the search for it ends early and yet looks at all that could be cheaper.
* `Text.wrap`: the lines of a text.
-/

namespace RecordLang.Text

/-! ### Fragments -/

/-- A piece of text that stays on one line, and the number of spaces behind it. -/
structure Fragment where
  text : List Char
  spaces : Nat

/-- Puts a character in front of the first of some pieces. -/
def consHead (c : Char) : List (List Char) → List (List Char)
  | [] => [[c]]
  | piece :: pieces => (c :: piece) :: pieces

/-- The parts of a word, cut behind each hyphen between two letters or digits. `before` is the character
before the word. -/
def hyphenParts (before : Option Char) : List Char → List (List Char)
  | [] => [[]]
  | c :: cs =>
      let parts := hyphenParts (some c) cs
      if c == '-' && before.any isAlphanumeric && cs.head?.any isAlphanumeric then [c] :: parts
      else consHead c parts

/-- A word cut into pieces of at most `limit` columns, the first of which has `used` columns before it.
No piece begins with a character that is not shown. -/
def chop (limit used : Nat) : List (Char × Role) → List (List Char)
  | [] => [[]]
  | (c, role) :: cs =>
      if role = .shown && 0 < used && limit < used + role.columns c then
        [] :: consHead c (chop limit (role.columns c) cs)
      else consHead c (chop limit (used + role.columns c) cs)

/-- The fragments that pieces of a word make, `spaces` standing behind the last. -/
def fragmentsOf (spaces : Nat) : List (List Char) → List Fragment
  | [] => []
  | [text] => [⟨text, spaces⟩]
  | text :: pieces => ⟨text, 0⟩ :: fragmentsOf spaces pieces

/-- The fragments of a paragraph on lines of `limit` columns. The first one is empty, so that no word
has to begin on the first line. -/
def fragments (limit : Nat) (cs : List Char) : List Fragment :=
  ⟨[], 0⟩ :: (words cs).flatMap fun word =>
    let reversed := word.reverse
    let text := (reversed.dropWhile (· == ' ')).reverse
    let spaces := (reversed.takeWhile (· == ' ')).length
    fragmentsOf spaces ((hyphenParts none text).flatMap fun part => chop limit 0 (roles part))

/-- The text of a line: its fragments without the spaces behind the last. -/
def lineText : List Fragment → List Char
  | [] => []
  | [f] => f.text
  | f :: fs => f.text ++ List.replicate f.spaces ' ' ++ lineText fs

/-! ### Layouts -/

/-- A layout of the first fragments of a paragraph. -/
structure Layout where
  /-- The number of these fragments. -/
  count : Nat := 0
  /-- Their columns, all spaces included. -/
  extent : Nat := 0
  cost : Nat := 0
  /-- How many fragments each line and those before it have, the last line first. -/
  ends : List Nat := []

/-- What a line of `used` columns costs where there is room for `limit`. The last line may be short, but
one fragment alone should fill a quarter of it. -/
def lineCost (limit used : Nat) (isLast isAlone : Bool) : Nat :=
  1000 +
    if limit < used then 2500 * (used - limit)
    else if !isLast then (limit - used) * (limit - used)
    else if isAlone && 4 * used < limit then 25
    else 0

namespace Layout

/-- The layout with one more line, on which the fragments up to `f` stand. The columns up to `f` are
`extent`, without the spaces behind it. -/
def addLine (limit : Nat) (isLast : Bool) (count extent : Nat) (f : Fragment) (l : Layout) : Layout :=
  { count := count
    extent := extent + f.spaces
    cost := l.cost + lineCost limit (extent - l.extent) isLast (l.count + 1 == count)
    ends := count :: l.ends }

/-- The cheapest of `best` and the given layouts with one more line, of equal ones the last. The layouts
are of ever shorter beginnings, so that the search can end where the overflow alone costs more than
`best`. -/
def cheapest (limit : Nat) (isLast : Bool) (count extent : Nat) (f : Fragment) (best : Layout) :
    List Layout → Layout
  | [] => best
  | l :: ls =>
      if best.cost < 2500 * (extent - l.extent - limit) then best
      else
        let l' := addLine limit isLast count extent f l
        cheapest limit isLast count extent f (if l'.cost ≤ best.cost then l' else best) ls

/-- The layouts with one that takes in the next fragment put in front: the cheapest of those that add
one line, and of these the one with the longest last line. Given are layouts of all beginnings, the
longest first. -/
def extend (limit : Nat) (isLast : Bool) (layouts : List Layout) (f : Fragment) : List Layout :=
  match layouts with
  | [] => []
  | newest :: shorter =>
      let count := newest.count + 1
      let extent := newest.extent + width f.text
      cheapest limit isLast count extent f (addLine limit isLast count extent f newest) shorter
        :: layouts

/-- The layouts of all longer beginnings, from those of the beginnings so far. -/
def extendAll (limit : Nat) : List Layout → List Fragment → List Layout
  | layouts, [] => layouts
  | layouts, f :: fs => extendAll limit (extend limit fs.isEmpty layouts f) fs

/-- The lines of a cheapest layout of a paragraph. -/
def lines (limit : Nat) (fs : List Fragment) : List (List Fragment) :=
  match extendAll limit [{}] fs with
  | [] => []
  | best :: _ => cutAt 0 best.ends.reverse.dropLast fs

/-! ### The search for a cheapest layout -/

theorem overflow_le_lineCost (limit used : Nat) (isLast isAlone : Bool) :
    2500 * (used - limit) ≤ lineCost limit used isLast isAlone := by
  unfold lineCost
  split <;> omega

theorem foldl_eq_of_forall_lt (line : Layout → Layout) (best : Layout) (ls : List Layout)
    (h : ∀ l ∈ ls, best.cost < (line l).cost) :
    ls.foldl (fun best l => if (line l).cost ≤ best.cost then line l else best) best = best := by
  induction ls with
  | nil => rfl
  | cons l ls ih =>
      have hl : ¬ (line l).cost ≤ best.cost := Nat.not_le_of_lt (h l (by simp))
      simp only [List.foldl_cons, if_neg hl]
      exact ih fun l' h' => h l' (by simp [h'])

/-- Nothing is lost where the search ends early. -/
theorem cheapest_eq_foldl (limit : Nat) (isLast : Bool) (count extent : Nat) (f : Fragment)
    (best : Layout) (ls : List Layout) (h : ls.Pairwise fun a b => b.extent ≤ a.extent) :
    cheapest limit isLast count extent f best ls =
      ls.foldl (fun best l =>
        let l' := addLine limit isLast count extent f l
        if l'.cost ≤ best.cost then l' else best) best := by
  induction ls generalizing best with
  | nil => rfl
  | cons l ls ih =>
      obtain ⟨hl, hls⟩ := List.pairwise_cons.mp h
      unfold cheapest
      split
      · next hbest =>
          refine (foldl_eq_of_forall_lt (addLine limit isLast count extent f) best _ ?_).symm
          intro l' h'
          have hle : l'.extent ≤ l.extent := by
            rcases List.mem_cons.mp h' with rfl | h'
            · exact Nat.le_refl _
            · exact hl l' h'
          have hcost := overflow_le_lineCost limit (extent - l'.extent) isLast (l'.count + 1 == count)
          simp only [addLine]
          omega
      · exact ih _ hls

end Layout

/-- The lines of a text on lines of `limit` columns. Each line of the text is a paragraph. -/
def wrap (limit : Nat) (s : String) : List String :=
  (s.splitOn "\n").flatMap fun paragraph =>
    (Layout.lines limit (fragments limit paragraph.toList)).map (String.ofList ∘ lineText)

end RecordLang.Text
