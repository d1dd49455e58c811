import RecordLang.Proofs.Delimiters
import RecordLang.Ty

/-!
What the text of a type says.

A union has no brackets of its own, so a union inside of a union does not show: the text of a type says
which alternatives it has in the end, and in which order. Inside of brackets and parentheses this begins
again. That is all that gets lost, if names are words and no union is empty. The text determines the
alternatives, and the alternatives determine the text.

* `TypeName`, `Alternative`: types that are no unions, with the alternatives of the types in them.
* `TypeExpr.alternatives`: the alternatives of a type, in the order of its text.
* `TypeExpr.Plain`: types in which names are words and unions are not empty.
* `TypeExpr.Plain.text_eq`: the text is that of the alternatives.
* `Alternative.Plain.determines`: where the text of an alternative ends.
* `TypeExpr.Plain.text_eq_iff`: types have one text exactly if they have the same alternatives.
-/

namespace RecordLang

open Text

/-! ### Alternatives -/

/-- A primitive type, or a path without its place. -/
inductive TypeName where
  | primitive (p : Primitive)
  | path (segments : List String)

/-- How the name is written. -/
def TypeName.text : TypeName → String
  | .primitive p => p.text
  | .path segments => ".".intercalate segments

/-- A type that is no union. The types in it are given by their alternatives. -/
inductive Alternative where
  | name (n : TypeName)
  | list (item : List Alternative)
  | record (fields : List (String × List Alternative))

namespace TypeExpr

mutual

/-- The alternatives of a type, those of inner unions included. -/
def alternatives : TypeExpr → List Alternative
  | .primitive p => [.name (.primitive p)]
  | .named path => [.name (.path path.segments)]
  | .list item => [.list item.alternatives]
  | .record fields => [.record (fieldAlternatives fields)]
  | .union types => alternativesAll types

/-- The names of declared fields, and the alternatives of their types. -/
def fieldAlternatives : List FieldType → List (String × List Alternative)
  | [] => []
  | .mk name type _ :: rest => (name, type.alternatives) :: fieldAlternatives rest

/-- The alternatives of all the types. -/
def alternativesAll : List TypeExpr → List Alternative
  | [] => []
  | type :: rest => type.alternatives ++ alternativesAll rest

end

end TypeExpr

namespace Alternative

mutual

/-- How an alternative is written, character by character. -/
def chars : Alternative → List Char
  | .name n => n.text.toList
  | .list item => '[' :: (List.intercalate [' ', '|', ' '] (charsAll item) ++ [']'])
  | .record fields => '(' :: (List.intercalate [',', ' '] (charsFields fields) ++ [')'])

/-- How each alternative is written. -/
def charsAll : List Alternative → List (List Char)
  | [] => []
  | a :: rest => a.chars :: charsAll rest

/-- How each field is written. -/
def charsFields : List (String × List Alternative) → List (List Char)
  | [] => []
  | (x, type) :: rest =>
      (x.toList ++ ':' :: ' ' :: List.intercalate [' ', '|', ' '] (charsAll type)) :: charsFields rest

end

/-- How a type with the given alternatives is written. -/
def join (as : List Alternative) : List Char :=
  List.intercalate [' ', '|', ' '] (as.map chars)

lemma charsAll_eq_map (as : List Alternative) : charsAll as = as.map chars := by
  induction as with
  | nil => rfl
  | cons a rest ih => rw [charsAll, ih, List.map_cons]

lemma charsFields_eq_map (fields : List (String × List Alternative)) :
    charsFields fields = fields.map (fieldChars join) := by
  induction fields with
  | nil => rfl
  | cons field rest ih =>
      obtain ⟨name, type⟩ := field
      rw [charsFields, ih, List.map_cons, charsAll_eq_map]
      rfl

end Alternative

/-! ### Plain types -/

/-- A name that is a word, or several words with points between them, but not one of the words for
primitive types unless it stands for that type. -/
def TypeName.Plain : TypeName → Prop
  | .primitive _ => True
  | .path segments =>
      segments ≠ [] ∧ (∀ s ∈ segments, IsWord s) ∧ ∀ p : Primitive, ".".intercalate segments ≠ p.text

/-- All names are words. -/
inductive Alternative.Plain : Alternative → Prop where
  | name {n : TypeName} : n.Plain → Plain (.name n)
  | list {item : List Alternative} : (∀ a ∈ item, Plain a) → Plain (.list item)
  | record {fields : List (String × List Alternative)} : (∀ field ∈ fields, IsWord field.1) →
      (∀ field ∈ fields, ∀ a ∈ field.2, Plain a) → Plain (.record fields)

/-- The name of a declared field. -/
def FieldType.name : FieldType → String
  | .mk name _ _ => name

namespace TypeExpr

mutual

/-- The names of fields and the segments of paths are words, a path has a segment and is not one of the
words for primitive types, a union has an alternative, and a record type repeats no field. -/
def Plain : TypeExpr → Prop
  | .primitive _ => True
  | .named path =>
      path.segments ≠ [] ∧ (∀ s ∈ path.segments, IsWord s) ∧ ∀ p : Primitive, path.text ≠ p.text
  | .list item => item.Plain
  | .record fields => (fields.map FieldType.name).Nodup ∧ PlainFields fields
  | .union types => types ≠ [] ∧ PlainAll types

/-- The names are words, and the types plain. -/
def PlainFields : List FieldType → Prop
  | [] => True
  | .mk name type _ :: rest => IsWord name ∧ type.Plain ∧ PlainFields rest

/-- All the types are plain. -/
def PlainAll : List TypeExpr → Prop
  | [] => True
  | type :: rest => type.Plain ∧ PlainAll rest

end

end TypeExpr

/-! ### From a type to its alternatives -/

lemma Alternative.join_cons (a : Alternative) (as : List Alternative) :
    join (a :: as) = a.chars ++ as.flatMap (fun a => [' ', '|', ' '] ++ a.chars) :=
  intercalate_map_cons chars [' ', '|', ' '] a as

lemma Alternative.join_append {as bs : List Alternative} (has : as ≠ []) (hbs : bs ≠ []) :
    join (as ++ bs) = join as ++ [' ', '|', ' '] ++ join bs := by
  obtain ⟨a, as, rfl⟩ := List.exists_cons_of_ne_nil has
  obtain ⟨b, bs, rfl⟩ := List.exists_cons_of_ne_nil hbs
  rw [List.cons_append, join_cons, join_cons, join_cons, List.flatMap_append, List.flatMap_cons]
  simp only [List.append_assoc]

namespace TypeExpr

mutual

theorem Plain.alternatives_ne_nil (t : TypeExpr) (ht : t.Plain) : t.alternatives ≠ [] := by
  cases t with
  | union types => exact Plain.alternativesAll_ne_nil types ht.2 ht.1
  | _ => simp [alternatives]

theorem Plain.alternativesAll_ne_nil (types : List TypeExpr) (hplain : PlainAll types)
    (hne : types ≠ []) : alternativesAll types ≠ [] := by
  cases types with
  | nil => exact absurd rfl hne
  | cons type rest =>
      rw [alternativesAll]
      exact List.append_ne_nil_of_left_ne_nil (Plain.alternatives_ne_nil type hplain.1) _

end

mutual

/-- **The text of a type is that of its alternatives.** -/
theorem Plain.toList_text (t : TypeExpr) (ht : t.Plain) :
    t.text.toList = Alternative.join t.alternatives := by
  cases t with
  | primitive p => simp [text, alternatives, Alternative.join, Alternative.chars, TypeName.text]
  | named path =>
      simp [text, alternatives, Alternative.join, Alternative.chars, TypeName.text, TypePath.text]
  | list item =>
      have hitem := Plain.toList_text item ht
      simp [text, alternatives, Alternative.join, Alternative.chars, Alternative.charsAll_eq_map, hitem]
  | record fields =>
      have hfields := Plain.map_toList_fieldTexts fields ht.2
      simp [text, alternatives, Alternative.join, Alternative.chars, Alternative.charsFields_eq_map,
        hfields, String.toList_intercalate]
  | union types =>
      have htypes := Plain.intercalate_texts types ht.2
      rw [text, String.toList_intercalate]
      exact htypes

theorem Plain.map_toList_fieldTexts (fields : List FieldType) (hplain : PlainFields fields) :
    (fieldTexts fields).map String.toList
      = (fieldAlternatives fields).map (fieldChars Alternative.join) := by
  cases fields with
  | nil => rfl
  | cons field rest =>
      obtain ⟨x, type, span⟩ := field
      obtain ⟨-, htype, hrest⟩ := hplain
      rw [fieldTexts, fieldAlternatives, List.map_cons, List.map_cons,
        Plain.map_toList_fieldTexts rest hrest, fieldChars, ← Plain.toList_text type htype]
      simp

theorem Plain.intercalate_texts (types : List TypeExpr) (hplain : PlainAll types) :
    List.intercalate [' ', '|', ' '] ((texts types).map String.toList)
      = Alternative.join (alternativesAll types) := by
  cases types with
  | nil => rfl
  | cons type rest =>
      obtain ⟨htype, hrest⟩ := hplain
      have htail := Plain.intercalate_texts rest hrest
      rw [texts, alternativesAll, List.map_cons, Plain.toList_text type htype]
      cases rest with
      | nil => simp [texts, alternativesAll]
      | cons next rest =>
          rw [List.intercalate_cons_of_ne_nil (by simp [texts]), htail,
            Alternative.join_append (Plain.alternatives_ne_nil type htype)
              (Plain.alternativesAll_ne_nil _ hrest (by simp))]

end

mutual

theorem Plain.alternatives_plain (t : TypeExpr) (ht : t.Plain) : ∀ a ∈ t.alternatives, a.Plain := by
  cases t with
  | primitive p => simpa [alternatives] using Alternative.Plain.name (n := .primitive p) trivial
  | named path => simpa [alternatives] using Alternative.Plain.name (n := .path path.segments) ht
  | list item =>
      simpa [alternatives] using Alternative.Plain.list (Plain.alternatives_plain item ht)
  | record fields =>
      obtain ⟨hwords, hplain⟩ := Plain.fieldAlternatives_plain fields ht.2
      simpa [alternatives] using Alternative.Plain.record hwords hplain
  | union types => exact Plain.alternativesAll_plain types ht.2

theorem Plain.fieldAlternatives_plain (fields : List FieldType) (hplain : PlainFields fields) :
    (∀ field ∈ fieldAlternatives fields, IsWord field.1) ∧
      ∀ field ∈ fieldAlternatives fields, ∀ a ∈ field.2, a.Plain := by
  cases fields with
  | nil => simp [fieldAlternatives]
  | cons field rest =>
      obtain ⟨x, type, span⟩ := field
      obtain ⟨hword, htype, hrest⟩ := hplain
      obtain ⟨hwords, hplain⟩ := Plain.fieldAlternatives_plain rest hrest
      rw [fieldAlternatives, List.forall_mem_cons, List.forall_mem_cons]
      exact ⟨⟨hword, hwords⟩, Plain.alternatives_plain type htype, hplain⟩

theorem Plain.alternativesAll_plain (types : List TypeExpr) (hplain : PlainAll types) :
    ∀ a ∈ alternativesAll types, a.Plain := by
  cases types with
  | nil => simp [alternativesAll]
  | cons type rest =>
      rw [alternativesAll, List.forall_mem_append]
      exact ⟨Plain.alternatives_plain type hplain.1, Plain.alternativesAll_plain rest hplain.2⟩

end

end TypeExpr

/-! ### From the text to the alternatives -/

/-- The characters of names. -/
def isNameChar (c : Char) : Bool :=
  isWordChar c || c == '.'

/-- What follows an alternative: a separator, or what follows a type. -/
def isEndOfAlternative (c : Char) : Bool :=
  c == ' ' || isClosing c

namespace TypeName

variable {n m : TypeName}

lemma toList_text_path (s : String) (rest : List String) :
    (path (s :: rest)).text.toList = s.toList ++ rest.flatMap (fun s => ['.'] ++ s.toList) := by
  rw [text, String.toList_intercalate]
  exact intercalate_map_cons String.toList ['.'] s rest

lemma Plain.forall_isNameChar (hn : n.Plain) : ∀ c ∈ n.text.toList, isNameChar c = true := by
  cases n with
  | primitive p =>
      rw [← List.all_eq_true]
      cases p <;> rfl
  | path segments =>
      obtain ⟨hne, hwords, -⟩ := hn
      obtain ⟨s, rest, rfl⟩ := List.exists_cons_of_ne_nil hne
      obtain ⟨hs, hrest⟩ := List.forall_mem_cons.mp hwords
      rw [toList_text_path]
      intro c hc
      obtain hc | hc := List.mem_append.mp hc
      · rw [isNameChar, hs.2 c hc, Bool.true_or]
      · obtain ⟨t, ht, hc⟩ := List.mem_flatMap.mp hc
        obtain rfl | hc := List.mem_cons.mp hc
        · rfl
        · rw [isNameChar, (hrest t ht).2 c hc, Bool.true_or]

/-- A name starts as a word does. -/
lemma Plain.exists_cons (hn : n.Plain) :
    ∃ c rest, n.text.toList = c :: rest ∧ isWordChar c = true := by
  cases n with
  | primitive p => cases p <;> exact ⟨_, _, rfl, rfl⟩
  | path segments =>
      obtain ⟨hne, hwords, -⟩ := hn
      obtain ⟨s, rest, rfl⟩ := List.exists_cons_of_ne_nil hne
      obtain ⟨c, tail, hs, hc⟩ := (hwords s List.mem_cons_self).exists_cons
      refine ⟨c, tail ++ rest.flatMap (fun s => ['.'] ++ s.toList), ?_, hc⟩
      rw [toList_text_path, hs, List.cons_append]

/-- Paths are taken apart at the points. -/
lemma segments_eq {segments segments' : List String} (hwords : ∀ s ∈ segments, IsWord s)
    (hwords' : ∀ s ∈ segments', IsWord s)
    (h : ".".intercalate segments = ".".intercalate segments') : segments = segments' := by
  have hparts : ∀ s ∈ segments, ∀ t ∈ segments',
      Determines Eq String.toList (Follows ['.'] (· = [])) s t := by
    intro s hs t ht u v hu hv heq
    have hends : ∀ {w : List Char}, Follows ['.'] (· = []) w → StartsIn (fun c => !isWordChar c) w := by
      rintro w (rfl | ⟨w, rfl⟩)
      · exact startsIn_nil _
      · exact startsIn_cons.mpr (by decide)
    obtain ⟨hst, huv⟩ := append_inj_of_forall (hwords s hs).2 (hwords' t ht).2 (hends hu) (hends hv) heq
    exact ⟨String.toList_inj.mp hst, huv⟩
  have hstart : ∀ {s : String}, IsWord s → ∀ w, s.toList ++ w ≠ [] := by
    intro s hs w heq
    exact hs.1 (String.toList_eq_nil_iff.mp (List.append_eq_nil_iff.mp heq).1)
  have htext : List.intercalate ['.'] (segments.map String.toList) ++ []
      = List.intercalate ['.'] (segments'.map String.toList) ++ [] := by
    rw [List.append_nil, List.append_nil]
    have := congrArg String.toList h
    rwa [String.toList_intercalate, String.toList_intercalate] at this
  have hall := (forall₂_of_intercalate hparts (by simp) (fun s hs => hstart (hwords s hs))
    (fun s hs => hstart (hwords' s hs)) rfl rfl htext).1
  rwa [List.forall₂_eq_eq_eq] at hall

/-- The text of a name determines the name. -/
lemma Plain.eq_of_text (hn : n.Plain) (hm : m.Plain) (h : n.text = m.text) : n = m := by
  cases n with
  | primitive p =>
      cases m with
      | primitive q => cases p <;> cases q <;> first | rfl | exact absurd h (by decide)
      | path segments => exact absurd h.symm (hm.2.2 p)
  | path segments =>
      cases m with
      | primitive q => exact absurd h (hn.2.2 q)
      | path segments' => rw [segments_eq hn.2.1 hm.2.1 h]

end TypeName

namespace Alternative

variable {a b : Alternative}

/-- An alternative starts with a word or an opening bracket. -/
lemma Plain.not_startsIn_isClosing (ha : a.Plain) (w : List Char) :
    ¬ StartsIn isClosing (a.chars ++ w) := by
  cases ha with
  | @name n hn =>
      obtain ⟨c, rest, hcons, hc⟩ := hn.exists_cons
      rw [chars, hcons, List.cons_append, startsIn_cons]
      intro hclosing
      rw [isWordChar_eq_false_of_isClosing hclosing] at hc
      cases hc
  | list _ => simp [chars, isClosing]
  | record _ _ => simp [chars, isClosing]

/-- The text of a type determines its alternatives if that of each alternative does. -/
lemma determines_join {as bs : List Alternative} (has : ∀ a ∈ as, a.Plain) (hbs : ∀ b ∈ bs, b.Plain)
    (hparts : ∀ a ∈ as, ∀ b ∈ bs, Determines Eq chars (StartsIn isEndOfAlternative) a b) :
    Determines Eq join (StartsIn isClosing) as bs := by
  have hfollow : ∀ u, Follows [' ', '|', ' '] (StartsIn isClosing) u →
      StartsIn isEndOfAlternative u := by
    rintro u (hclosing | ⟨w, rfl⟩)
    · exact hclosing.mono fun c hc => by rw [isEndOfAlternative, hc, Bool.or_true]
    · exact startsIn_cons.mpr rfl
  intro u v hu hv h
  obtain ⟨hall, huv⟩ := forall₂_of_intercalate
    (fun a ha b hb => (hparts a ha b hb).mono hfollow) (by simp [isClosing])
    (fun a ha => (has a ha).not_startsIn_isClosing) (fun b hb => (hbs b hb).not_startsIn_isClosing)
    hu hv h
  rw [List.forall₂_eq_eq_eq] at hall
  exact ⟨hall, huv⟩

/-- **Where an alternative ends**, by induction on its parts: its text, whatever follows, determines it
and what follows. -/
theorem Plain.determines (ha : a.Plain) (hb : b.Plain) :
    Determines Eq chars (StartsIn isEndOfAlternative) a b := by
  -- a name does not start like a list or a record
  have hname : ∀ {n : TypeName} {c : Char} {u v : List Char}, n.Plain → isWordChar c = false →
      n.text.toList ++ u ≠ c :: v := by
    intro n c u v hn hc h
    obtain ⟨d, rest, hcons, hd⟩ := hn.exists_cons
    rw [hcons, List.cons_append] at h
    rw [List.head_eq_of_cons_eq h, hc] at hd
    cases hd
  have hends : ∀ {u : List Char}, StartsIn isEndOfAlternative u → StartsIn (fun c => !isNameChar c) u := by
    intro u hu
    refine hu.mono fun c hc => ?_
    rw [isEndOfAlternative, Bool.or_eq_true, beq_iff_eq] at hc
    obtain rfl | rfl | rfl | rfl := hc.imp_right isClosing_cases <;> decide
  induction ha generalizing b with
  | name hn =>
      intro u v hu hv h
      cases hb with
      | name hm =>
          obtain ⟨htext, huv⟩ := append_inj_of_forall hn.forall_isNameChar hm.forall_isNameChar
            (hends hu) (hends hv) h
          exact ⟨congrArg Alternative.name (hn.eq_of_text hm (String.toList_inj.mp htext)), huv⟩
      | list _ => exact absurd h (hname hn (by decide))
      | record _ _ => exact absurd h (hname hn (by decide))
  | @list item hitem ih =>
      intro u v hu hv h
      cases hb with
      | name hm => exact absurd h.symm (hname hm (by decide))
      | @list item' hitem' =>
          have hjoin : join item ++ ']' :: u = join item' ++ ']' :: v := by
            simpa [chars, charsAll_eq_map, join] using h
          obtain ⟨hall, hrest⟩ := determines_join hitem hitem'
            (fun a ha b hb => ih a ha (hitem' b hb)) _ _ (startsIn_cons.mpr rfl)
            (startsIn_cons.mpr rfl) hjoin
          exact ⟨congrArg Alternative.list hall, List.tail_eq_of_cons_eq hrest⟩
      | record _ _ => simp [chars] at h
  | @record fields hwords hplain ih =>
      intro u v hu hv h
      cases hb with
      | name hm => exact absurd h.symm (hname hm (by decide))
      | list _ => simp [chars] at h
      | @record fields' hwords' hplain' =>
          obtain ⟨hall, huv⟩ := forall₂_of_fields (R := Eq) (f := join) (u := u) (v := v) hwords hwords'
            (fun a ha b hb => determines_join (hplain a ha) (hplain' b hb)
              fun x hx y hy => ih a ha x hx (hplain' b hb y hy))
            (by simpa [chars, charsFields_eq_map] using h)
          have hfields : fields = fields' := by
            rw [← List.forall₂_eq_eq_eq]
            exact hall.imp fun x y hxy => Prod.ext hxy.1 hxy.2
          exact ⟨congrArg Alternative.record hfields, huv⟩

end Alternative

/-- **Types have one text exactly if they have the same alternatives.** -/
theorem TypeExpr.Plain.text_eq_iff {a b : TypeExpr} (ha : a.Plain) (hb : b.Plain) :
    a.text = b.text ↔ a.alternatives = b.alternatives := by
  have ha' := Plain.alternatives_plain a ha
  have hb' := Plain.alternatives_plain b hb
  rw [← String.toList_inj, Plain.toList_text a ha, Plain.toList_text b hb]
  refine ⟨fun h => ?_, fun h => by rw [h]⟩
  have hdetermines := Alternative.determines_join ha' hb' fun x hx y hy =>
    (ha' x hx).determines (hb' y hy)
  exact (hdetermines [] [] (startsIn_nil _) (startsIn_nil _) (by rw [h])).1

end RecordLang
