import Mathlib.Tactic
import Mathlib.Data.List.Forall2
import RecordLang.Text.Alphanumeric

/-!
Texts put together with delimiters.

The text of a type or of a list is put together from the texts of its parts, with brackets, commas and
the like between them. That it can be taken apart again in one way only is shown from the left: the text
of a part, whatever follows it, determines the part and what follows. For this it matters which
characters can follow. A word ends where a character comes that is not in words, and the parts of a
sequence end where neither a separator nor anything else that belongs to it comes.

* `Text.IsWord`: non-empty texts of letters, digits and underscores.
* `Text.StartsIn`: a text is at its end, or goes on with one of some characters.
* `Text.append_inj_of_forall`: where a word ends.
* `Text.Determines`: the text of a part, whatever follows, determines the part and what follows.
* `Text.forall₂_of_intercalate`: taking a sequence apart.
* `Text.forall₂_of_items`, `Text.forall₂_of_fields`: items in brackets and fields in parentheses.
-/

namespace RecordLang.Text

/-! ### Words -/

/-- A letter or digit of some script, or an underscore. -/
def isWordChar (c : Char) : Bool :=
  isAlphanumeric c || c == '_'

/-- A non-empty text of letters, digits and underscores. -/
def IsWord (s : String) : Prop :=
  s ≠ "" ∧ ∀ c ∈ s.toList, isWordChar c = true

instance (s : String) : Decidable (IsWord s) :=
  decidable_of_iff (s ≠ "" ∧ s.toList.all isWordChar = true) (by rw [IsWord, List.all_eq_true])

lemma IsWord.exists_cons {s : String} (h : IsWord s) :
    ∃ c rest, s.toList = c :: rest ∧ isWordChar c = true := by
  cases hs : s.toList with
  | nil => exact absurd (String.toList_eq_nil_iff.mp hs) h.1
  | cons c rest => exact ⟨c, rest, rfl, h.2 c (by rw [hs]; exact List.mem_cons_self)⟩

/-- The text ends here, or goes on with one of the characters. -/
def StartsIn (p : Char → Bool) (u : List Char) : Prop :=
  ∀ c ∈ u.head?, p c = true

section

variable {p q : Char → Bool} {u v : List Char} {c : Char}

lemma startsIn_nil (p : Char → Bool) : StartsIn p [] := by
  simp [StartsIn]

@[simp] lemma startsIn_cons : StartsIn p (c :: u) ↔ p c = true := by
  simp [StartsIn]

lemma StartsIn.mono (h : StartsIn p u) (hpq : ∀ c, p c = true → q c = true) : StartsIn q u :=
  fun c hc => hpq c (h c hc)

/-- A word, whatever its characters are, ends where another character comes. -/
lemma append_inj_of_forall {s t : List Char} (hs : ∀ c ∈ s, p c = true) (ht : ∀ c ∈ t, p c = true)
    (hu : StartsIn (fun c => !p c) u) (hv : StartsIn (fun c => !p c) v) (h : s ++ u = t ++ v) :
    s = t ∧ u = v := by
  have htakes : ∀ {s u : List Char}, (∀ c ∈ s, p c = true) → StartsIn (fun c => !p c) u →
      (s ++ u).takeWhile p = s := by
    intro s u hs hu
    have hnil : u.takeWhile p = [] := by
      cases u with
      | nil => rfl
      | cons c rest =>
          have hc : p c = false := by simpa using hu
          simp [hc]
    rw [List.takeWhile_append_of_pos hs, hnil, List.append_nil]
  have hst : s = t := by rw [← htakes hs hu, h, htakes ht hv]
  subst hst
  exact ⟨rfl, List.append_cancel_left h⟩

end

/-! ### Sequences -/

section

variable {α : Type} {R : α → α → Prop} {f : α → List Char} {sep : List Char}
  {Ends : List Char → Prop} {as bs : List α} {u v : List Char}

/-- What follows a part of a sequence: the end of the sequence, or a separator. -/
def Follows (sep : List Char) (Ends : List Char → Prop) (u : List Char) : Prop :=
  Ends u ∨ sep <+: u

/-- Where the texts of two parts, with anything behind them that can follow, are the same, the parts are
related, and the same follows. -/
def Determines (R : α → α → Prop) (f : α → List Char) (Follow : List Char → Prop) (a b : α) : Prop :=
  ∀ u v, Follow u → Follow v → f a ++ u = f b ++ v → R a b ∧ u = v

lemma Determines.mono {Follow Follow' : List Char → Prop} {a b : α} (h : Determines R f Follow a b)
    (hfollow : ∀ u, Follow' u → Follow u) : Determines R f Follow' a b :=
  fun u v hu hv => h u v (hfollow u hu) (hfollow v hv)

lemma flatMap_cons_append (f : α → List Char) (sep : List Char) (a : α) (as : List α)
    (u : List Char) :
    (a :: as).flatMap (fun a => sep ++ f a) ++ u
      = sep ++ (f a ++ (as.flatMap (fun a => sep ++ f a) ++ u)) := by
  rw [List.flatMap_cons, List.append_assoc, List.append_assoc]

lemma follows_flatMap (hu : Ends u) (as : List α) :
    Follows sep Ends (as.flatMap (fun a => sep ++ f a) ++ u) := by
  cases as with
  | nil => exact Or.inl hu
  | cons a rest =>
      rw [flatMap_cons_append]
      exact Or.inr (List.prefix_append _ _)

/-- Sequences with a separator before each part, by induction on the first of them. -/
lemma forall₂_of_flatMap (hparts : ∀ a ∈ as, ∀ b ∈ bs, Determines R f (Follows sep Ends) a b)
    (hsep : ∀ w, ¬ Ends (sep ++ w)) (hu : Ends u) (hv : Ends v)
    (h : as.flatMap (fun a => sep ++ f a) ++ u = bs.flatMap (fun a => sep ++ f a) ++ v) :
    List.Forall₂ R as bs ∧ u = v := by
  induction as generalizing bs with
  | nil =>
      cases bs with
      | nil => exact ⟨.nil, h⟩
      | cons b bs =>
          rw [flatMap_cons_append, List.flatMap_nil, List.nil_append] at h
          exact absurd (h ▸ hu) (hsep _)
  | cons a as ih =>
      cases bs with
      | nil =>
          rw [flatMap_cons_append, List.flatMap_nil, List.nil_append] at h
          exact absurd (h ▸ hv) (hsep _)
      | cons b bs =>
          rw [flatMap_cons_append, flatMap_cons_append, List.append_cancel_left_eq] at h
          obtain ⟨hab, hrest⟩ := hparts a List.mem_cons_self b List.mem_cons_self _ _
            (follows_flatMap hu as) (follows_flatMap hv bs) h
          obtain ⟨hall, huv⟩ := ih (fun a ha b hb =>
            hparts a (List.mem_cons_of_mem _ ha) b (List.mem_cons_of_mem _ hb)) hrest
          exact ⟨.cons hab hall, huv⟩

/-- A sequence is its first part, and the others with a separator before each of them. -/
lemma intercalate_map_cons (f : α → List Char) (sep : List Char) (a : α) (as : List α) :
    sep.intercalate ((a :: as).map f) = f a ++ as.flatMap (fun a => sep ++ f a) := by
  induction as generalizing a with
  | nil => simp
  | cons b bs ih =>
      rw [List.map_cons, List.map_cons, List.intercalate_cons_cons, ← List.map_cons, ih,
        List.flatMap_cons, List.append_assoc, List.append_assoc]

/-- **The text of a sequence determines its parts**, and what follows. What ends a sequence must not look
like a separator or like the start of a part. -/
lemma forall₂_of_intercalate (hparts : ∀ a ∈ as, ∀ b ∈ bs, Determines R f (Follows sep Ends) a b)
    (hsep : ∀ w, ¬ Ends (sep ++ w)) (has : ∀ a ∈ as, ∀ w, ¬ Ends (f a ++ w))
    (hbs : ∀ b ∈ bs, ∀ w, ¬ Ends (f b ++ w)) (hu : Ends u) (hv : Ends v)
    (h : sep.intercalate (as.map f) ++ u = sep.intercalate (bs.map f) ++ v) :
    List.Forall₂ R as bs ∧ u = v := by
  cases as with
  | nil =>
      cases bs with
      | nil => exact ⟨.nil, h⟩
      | cons b bs =>
          rw [intercalate_map_cons, List.append_assoc, List.map_nil, List.intercalate_nil,
            List.nil_append] at h
          exact absurd (h ▸ hu) (hbs b List.mem_cons_self _)
  | cons a as =>
      cases bs with
      | nil =>
          rw [intercalate_map_cons, List.append_assoc, List.map_nil, List.intercalate_nil,
            List.nil_append] at h
          exact absurd (h ▸ hv) (has a List.mem_cons_self _)
      | cons b bs =>
          rw [intercalate_map_cons, intercalate_map_cons, List.append_assoc, List.append_assoc] at h
          obtain ⟨hab, hrest⟩ := hparts a List.mem_cons_self b List.mem_cons_self _ _
            (follows_flatMap hu as) (follows_flatMap hv bs) h
          obtain ⟨hall, huv⟩ := forall₂_of_flatMap (fun a ha b hb =>
            hparts a (List.mem_cons_of_mem _ ha) b (List.mem_cons_of_mem _ hb)) hsep hu hv hrest
          exact ⟨.cons hab hall, huv⟩

/-! ### Items and fields -/

/-- The characters that come behind an item or a field: a comma, or the bracket that closes. -/
def isClosing (c : Char) : Bool :=
  c == ',' || c == ')' || c == ']'

lemma isClosing_cases {c : Char} (h : isClosing c = true) : c = ',' ∨ c = ')' ∨ c = ']' := by
  simpa [isClosing, or_assoc] using h

lemma isWordChar_eq_false_of_isClosing {c : Char} (h : isClosing c = true) : isWordChar c = false := by
  obtain rfl | rfl | rfl := isClosing_cases h <;> decide

lemma Follows.startsIn_isClosing {bracket : Char} (hbracket : isClosing bracket = true)
    (h : Follows [',', ' '] (StartsIn (· == bracket)) u) : StartsIn isClosing u := by
  obtain hend | ⟨w, rfl⟩ := h
  · refine hend.mono fun c hc => ?_
    rw [beq_iff_eq.mp hc]
    exact hbracket
  · exact startsIn_cons.mpr rfl

/-- The items of a list in brackets are determined by its text. -/
lemma forall₂_of_items (hparts : ∀ a ∈ as, ∀ b ∈ bs, Determines R f (StartsIn isClosing) a b)
    (has : ∀ a ∈ as, ∀ w, ¬ StartsIn isClosing (f a ++ w))
    (hbs : ∀ b ∈ bs, ∀ w, ¬ StartsIn isClosing (f b ++ w))
    (h : List.intercalate [',', ' '] (as.map f) ++ ']' :: u
      = List.intercalate [',', ' '] (bs.map f) ++ ']' :: v) : List.Forall₂ R as bs ∧ u = v := by
  have hends : ∀ {w : List Char}, StartsIn (· == ']') w → StartsIn isClosing w :=
    fun h => Follows.startsIn_isClosing rfl (Or.inl h)
  obtain ⟨hall, hrest⟩ := forall₂_of_intercalate
    (fun a ha b hb => (hparts a ha b hb).mono fun u hu => hu.startsIn_isClosing rfl)
    (by simp) (fun a ha w hw => has a ha w (hends hw)) (fun b hb w hw => hbs b hb w (hends hw))
    (startsIn_cons.mpr rfl) (startsIn_cons.mpr rfl) h
  exact ⟨hall, List.tail_eq_of_cons_eq hrest⟩

/-- How a field is written. -/
def fieldChars (f : α → List Char) (field : String × α) : List Char :=
  field.1.toList ++ ':' :: ' ' :: f field.2

/-- A field is determined by its text if what stands in it is: its name ends at the colon. -/
lemma Determines.field {Follow : List Char → Prop} {field field' : String × α} (hname : IsWord field.1)
    (hname' : IsWord field'.1) (h : Determines R f Follow field.2 field'.2) :
    Determines (fun a b => a.1 = b.1 ∧ R a.2 b.2) (fieldChars f) Follow field field' := by
  intro u v hu hv heq
  rw [fieldChars, fieldChars, List.append_assoc, List.append_assoc] at heq
  obtain ⟨hnames, hrest⟩ := append_inj_of_forall hname.2 hname'.2 (startsIn_cons.mpr (by decide))
    (startsIn_cons.mpr (by decide)) heq
  obtain ⟨hparts, huv⟩ := h u v hu hv (by simpa using hrest)
  exact ⟨⟨String.toList_inj.mp hnames, hparts⟩, huv⟩

/-- The fields of a record in parentheses are determined by its text. -/
lemma forall₂_of_fields {fields fields' : List (String × α)} (hwords : ∀ a ∈ fields, IsWord a.1)
    (hwords' : ∀ b ∈ fields', IsWord b.1)
    (hparts : ∀ a ∈ fields, ∀ b ∈ fields', Determines R f (StartsIn isClosing) a.2 b.2)
    (h : List.intercalate [',', ' '] (fields.map (fieldChars f)) ++ ')' :: u
      = List.intercalate [',', ' '] (fields'.map (fieldChars f)) ++ ')' :: v) :
    List.Forall₂ (fun a b => a.1 = b.1 ∧ R a.2 b.2) fields fields' ∧ u = v := by
  have hstart : ∀ field : String × α, IsWord field.1 → ∀ w,
      ¬ StartsIn (· == ')') (fieldChars f field ++ w) := by
    intro field hname w hend
    obtain ⟨c, rest, hcons, hc⟩ := hname.exists_cons
    rw [fieldChars, hcons, List.cons_append, List.cons_append, startsIn_cons, beq_iff_eq] at hend
    rw [hend] at hc
    cases hc
  obtain ⟨hall, hrest⟩ := forall₂_of_intercalate
    (fun a ha b hb => ((hparts a ha b hb).field (hwords a ha) (hwords' b hb)).mono
      fun u hu => hu.startsIn_isClosing rfl)
    (by simp) (fun a ha => hstart a (hwords a ha)) (fun b hb => hstart b (hwords' b hb))
    (startsIn_cons.mpr rfl) (startsIn_cons.mpr rfl) h
  exact ⟨hall, List.tail_eq_of_cons_eq hrest⟩

end

end RecordLang.Text
