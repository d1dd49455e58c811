import RecordLang.Proofs.Containment.Rendering
import RecordLang.Proofs.Delimiters
import RecordLang.Proofs.Doubles.Text
import RecordLang.Proofs.Equality
import RecordLang.Proofs.Quoting
import RecordLang.Value.Text

/-!
What the text of a list says.

Strings are quoted inside of lists and records, so the text of a nested value tells where the value ends,
and which value it is up to equality. Its first character tells strings, lists and records apart from
words. A string ends at its quote, a list or a record at its bracket, and a word, which is a number, a
boolean or nil, where a comma or a bracket comes. All this holds below each container, and so for lists as
a whole.

* `Value.IsData`: values that are data throughout.
* `Value.chars`: how a nested value is written.
* `Value.IsData.alike_of_text_eq`: numbers, booleans and nil.
* `Value.DataWithin`: data up to a depth of nesting, which goes down with each container.
* `Value.DataWithin.determines`: where a nested value ends.
* `text_determines_lists`: the main statement.
-/

namespace RecordLang

open Decimal Text

/-! ### Data -/

/-- A number that is no NaN, a string, a boolean, nil, or a list or plain record of such values whose
fields are named by words. -/
inductive Value.IsData (st : Store) : Value → Prop where
  | number {x : Float} : x.isNaN = false → IsData st (.number x)
  | string (s : String) : IsData st (.string s)
  | boolean (b : Bool) : IsData st (.boolean b)
  | nil : IsData st .nil
  | list {r : ListRef} : (∀ v ∈ st.list r, IsData st v) → IsData st (.list r)
  | record {r : RecordRef} : (∀ field ∈ (st.record r).entries, IsWord field.1) →
      (∀ field ∈ (st.record r).entries, IsData st field.2) → IsData st (.record r)

namespace Value

/-- How the value is written inside a list or a record, character by character. -/
def chars (st : Store) (depth : Nat) (v : Value) : List Char :=
  (nestedText (textWithin st depth) v).toList

/-- The character that tells strings, lists and records from other values. -/
def opening : Value → Option Char
  | .string _ => some '"'
  | .list _ => some '['
  | .record _ => some '('
  | _ => none

section

variable {st : Store} {depth : Nat}

@[simp] lemma nestedText_number (x : Float) :
    nestedText (textWithin st depth) (.number x) = plain x := by
  cases depth <;> rfl

@[simp] lemma nestedText_boolean (b : Bool) :
    nestedText (textWithin st depth) (.boolean b) = if b then "true" else "false" := by
  cases depth <;> rfl

@[simp] lemma nestedText_nil : nestedText (textWithin st depth) .nil = "nil" := by
  cases depth <;> rfl

lemma chars_list (r : ListRef) : chars st (depth + 1) (.list r)
    = '[' :: (List.intercalate [',', ' '] ((st.list r).toList.map (chars st depth)) ++ [']']) := by
  have htext : nestedText (textWithin st (depth + 1)) (.list r)
      = itemsText (textWithin st depth) (st.list r) := rfl
  have hitems : ((st.list r).toList.map (nestedText (textWithin st depth))).map String.toList
      = (st.list r).toList.map (chars st depth) := List.map_map
  rw [chars, htext, itemsText, String.toList_append, String.toList_append, String.toList_intercalate,
    hitems]
  rfl

lemma chars_record (r : RecordRef) : chars st (depth + 1) (.record r)
    = '(' :: (List.intercalate [',', ' '] ((st.record r).entries.map (fieldChars (chars st depth)))
      ++ [')']) := by
  have htext : nestedText (textWithin st (depth + 1)) (.record r)
      = fieldsText (textWithin st depth) (st.record r) := rfl
  have hfield : ∀ field : String × Value,
      (field.1 ++ ": " ++ nestedText (textWithin st depth) field.2).toList
        = fieldChars (chars st depth) field := by
    intro field
    simp [fieldChars, chars]
  rw [chars, htext, fieldsText, String.toList_append, String.toList_append, String.toList_intercalate,
    List.map_map]
  simp [Function.comp_def, hfield]

/-! ### Words -/

lemma isNumberChar_eq_false_of_isClosing {c : Char} (h : isClosing c = true) : isNumberChar c = false := by
  obtain rfl | rfl | rfl := isClosing_cases h <;> decide

section

variable {v w : Value}

/-- A value other than a string, a list or a record is written as a word. -/
lemma IsData.isNumberChar_of_mem_chars (hv : v.IsData st) (hword : v.opening = none) :
    ∀ c ∈ chars st depth v, isNumberChar c = true := by
  cases hv with
  | number hx =>
      rw [chars, nestedText_number]
      exact fun c => isNumberChar_of_mem_plain hx
  | string _ | list _ | record _ _ => cases hword
  | boolean b => cases b <;> simp [chars, isNumberChar]
  | nil => simp [chars, isNumberChar]

/-- Words are equal as values if they are as texts. -/
lemma IsData.alike_of_text_eq {lists : ListRef → ListRef → Prop} {records : RecordRef → RecordRef → Prop}
    (hv : v.IsData st) (hw : w.IsData st) (hv' : v.opening = none) (hw' : w.opening = none)
    (h : nestedText (textWithin st depth) v = nestedText (textWithin st depth) w) :
    Alike lists records v w := by
  have hnumber : ∀ {x : Float}, x.isNaN = false → ∀ b : Bool,
      plain x ≠ (if b then "true" else "false") ∧ plain x ≠ "nil" :=
    fun hx b => ⟨plain_ne_word hx (by cases b <;> simp), plain_ne_word hx (by simp)⟩
  cases hv with
  | number hx =>
      cases hw with
      | number hy => exact .number (beq_of_plain_eq hx hy (by simpa using h))
      | boolean b => exact absurd (by simpa using h) (hnumber hx b).1
      | nil => exact absurd (by simpa using h) (hnumber hx true).2
      | string _ | list _ | record _ _ => cases hw'
  | boolean b =>
      cases hw with
      | number hy => exact absurd (by simpa using h.symm) (hnumber hy b).1
      | boolean b' =>
          obtain rfl : b = b' := by
            cases b <;> cases b' <;> simp_all
          exact .boolean b
      | nil => cases b <;> simp at h
      | string _ | list _ | record _ _ => cases hw'
  | nil =>
      cases hw with
      | number hy => exact absurd (by simpa using h.symm) (hnumber hy true).2
      | boolean b => cases b <;> simp at h
      | nil => exact .nil
      | string _ | list _ | record _ _ => cases hw'
  | string _ | list _ | record _ _ => cases hv'

/-! ### What a value starts with -/

/-- Data nested at most `depth` containers deep. -/
structure DataWithin (st : Store) (depth : Nat) (v : Value) : Prop where
  isData : v.IsData st
  wellNested : v.WellNested st
  rank_le : st.rank v ≤ depth

namespace DataWithin

lemma inside {c : Container} (hv : v.DataWithin st (depth + 1)) (hc : v.container? = some c)
    (hw : st.Stands w c) (hdata : w.IsData st) : w.DataWithin st depth := by
  have hlt := hv.wellNested.rank_lt hc hw
  have hle := hv.rank_le
  exact ⟨hdata, hv.wellNested.inside hc hw, by omega⟩

lemma items {r : ListRef} (h : (list r).DataWithin st (depth + 1)) :
    ∀ v ∈ (st.list r).toList, v.DataWithin st depth := by
  intro v hv
  rw [Array.mem_toList_iff] at hv
  cases h.isData with
  | list hitems => exact h.inside rfl hv (hitems v hv)

lemma fields {r : RecordRef} (h : (record r).DataWithin st (depth + 1)) :
    ∀ field ∈ (st.record r).entries, IsWord field.1 ∧ field.2.DataWithin st depth := by
  intro field hfield
  cases h.isData with
  | record hnames hfields =>
      exact ⟨hnames field hfield,
        h.inside rfl ⟨field.1, Table.find?_eq_some_of_mem hfield⟩ (hfields field hfield)⟩

lemma exists_eq_succ {c : Container} (h : v.DataWithin st depth) (hc : v.container? = some c) :
    ∃ n, depth = n + 1 := by
  refine Nat.exists_eq_succ_of_ne_zero ?_
  rintro rfl
  cases (h.wellNested.container?_of_rank h.rank_le).symm.trans hc

/-- A nested value starts with the character that tells its kind, or one of a word. -/
lemma chars_eq_cons (hv : v.DataWithin st depth) : ∃ c rest, chars st depth v = c :: rest ∧
    (v.opening = some c ∨ v.opening = none ∧ isNumberChar c = true) := by
  cases hv.isData with
  | number hx =>
      obtain ⟨c, rest, hcons, -⟩ := plain_eq_cons hx
      refine ⟨c, rest, by rw [chars, nestedText_number, hcons], Or.inr ⟨rfl, ?_⟩⟩
      exact isNumberChar_of_mem_plain hx (by rw [hcons]; exact List.mem_cons_self)
  | string s =>
      exact ⟨'"', s.toList.flatMap escape ++ ['"'], by simp [chars, nestedText, quoted], Or.inl rfl⟩
  | boolean b =>
      rw [chars, nestedText_boolean]
      cases b with
      | false => exact ⟨'f', ['a', 'l', 's', 'e'], rfl, Or.inr ⟨rfl, rfl⟩⟩
      | true => exact ⟨'t', ['r', 'u', 'e'], rfl, Or.inr ⟨rfl, rfl⟩⟩
  | nil => exact ⟨'n', ['i', 'l'], by rw [chars, nestedText_nil]; rfl, Or.inr ⟨rfl, rfl⟩⟩
  | list _ =>
      obtain ⟨depth, rfl⟩ := hv.exists_eq_succ rfl
      exact ⟨'[', _, chars_list _, Or.inl rfl⟩
  | record _ _ =>
      obtain ⟨depth, rfl⟩ := hv.exists_eq_succ rfl
      exact ⟨'(', _, chars_record _, Or.inl rfl⟩

/-- It does not start with what comes behind values. -/
lemma not_startsIn_isClosing (hv : v.DataWithin st depth) (u : List Char) :
    ¬ StartsIn isClosing (chars st depth v ++ u) := by
  obtain ⟨c, rest, hcons, hc⟩ := hv.chars_eq_cons
  rw [hcons, List.cons_append, startsIn_cons]
  intro hclosing
  obtain hopening | ⟨-, hnumber⟩ := hc
  · cases v <;> cases hopening <;> cases hclosing
  · rw [isNumberChar_eq_false_of_isClosing hclosing] at hnumber
    cases hnumber

/-- The first character tells the kinds of values apart. -/
lemma opening_eq (hv : v.DataWithin st depth) (hw : w.DataWithin st depth) {u u' : List Char}
    (h : chars st depth v ++ u = chars st depth w ++ u') : v.opening = w.opening := by
  have hspecial : ∀ {x : Value} {c : Char}, x.opening = some c → isNumberChar c = false := by
    intro x c hx
    cases x <;> cases hx <;> rfl
  obtain ⟨c, rest, hcons, hc⟩ := hv.chars_eq_cons
  obtain ⟨c', rest', hcons', hc'⟩ := hw.chars_eq_cons
  rw [hcons, hcons', List.cons_append, List.cons_append] at h
  obtain rfl : c = c' := List.head_eq_of_cons_eq h
  obtain hv | ⟨hv, hnumber⟩ := hc <;> obtain hw | ⟨hw, hnumber'⟩ := hc'
  · rw [hv, hw]
  · cases (hspecial hv).symm.trans hnumber'
  · cases (hspecial hw).symm.trans hnumber
  · rw [hv, hw]

end DataWithin

/-! ### Where a nested value ends -/

/-- Fields that are related one by one are related under each name. -/
lemma rel_lookup_of_forall₂ {R : Value → Value → Prop} {es es' : List (String × Value)}
    (h : List.Forall₂ (fun f g => f.1 = g.1 ∧ R f.2 g.2) es es') (x : String) :
    Option.Rel R (es.lookup x) (es'.lookup x) := by
  induction h with
  | nil => exact .none
  | @cons f g _ _ hfg _ ih =>
      obtain ⟨y, v⟩ := f
      obtain ⟨z, w⟩ := g
      obtain ⟨rfl, hvw⟩ := hfg
      rw [List.lookup_cons, List.lookup_cons]
      cases x == y with
      | true => exact .some hvw
      | false => exact ih

namespace DataWithin

/-- Words end where a character comes that is not in words. -/
lemma determines_word (hv : v.DataWithin st depth) (hw : w.DataWithin st depth)
    (hword : v.opening = none) :
    Determines (fun v w => equalWithin st depth v w = true) (chars st depth) (StartsIn isClosing) v w := by
  have hends : ∀ {u : List Char}, StartsIn isClosing u → StartsIn (fun c => !isNumberChar c) u := by
    intro u hu
    refine hu.mono fun c hc => ?_
    rw [isNumberChar_eq_false_of_isClosing hc]
    rfl
  intro u u' hu hu' h
  have hword' : w.opening = none := (hv.opening_eq hw h).symm.trans hword
  obtain ⟨htext, hrest⟩ := append_inj_of_forall (hv.isData.isNumberChar_of_mem_chars hword)
    (hw.isData.isNumberChar_of_mem_chars hword') (hends hu) (hends hu') h
  exact ⟨equalWithin_iff_alike.mpr
    (hv.isData.alike_of_text_eq hw.isData hword hword' (String.toList_inj.mp htext)), hrest⟩

/-- **Where a nested value ends**, by induction on its parts: its text, whatever follows, determines it up
to equality, and what follows. -/
theorem determines (hv : v.DataWithin st depth) (hw : w.DataWithin st depth) :
    Determines (fun v w => equalWithin st depth v w = true) (chars st depth) (StartsIn isClosing) v w := by
  have hdata := hv.isData
  induction hdata generalizing depth w with
  | number _ | boolean _ | nil => exact hv.determines_word hw rfl
  | string s =>
      intro u u' _ _ h
      have hopening := hv.opening_eq hw h
      cases hw.isData with
      | string t =>
          obtain ⟨rfl, hrest⟩ := determines_quoted h
          exact ⟨equalWithin_iff_alike.mpr (.string s), hrest⟩
      | _ => cases hopening
  | @list r _ ih =>
      intro u u' _ _ h
      have hopening := hv.opening_eq hw h
      obtain ⟨depth, rfl⟩ := hv.exists_eq_succ rfl
      cases hw.isData with
      | @list r' _ =>
          rw [chars_list, chars_list] at h
          obtain ⟨hall, hrest⟩ := forall₂_of_items
            (R := fun v w => equalWithin st depth v w = true)
            (fun a ha b hb => ih a (Array.mem_toList_iff.mp ha) (hv.items a ha) (hw.items b hb))
            (fun a ha => (hv.items a ha).not_startsIn_isClosing)
            (fun b hb => (hw.items b hb).not_startsIn_isClosing) (by simpa using h)
          exact ⟨equalWithin_iff_alike.mpr (.list (Or.inr hall)), hrest⟩
      | _ => cases hopening
  | @record r _ _ ih =>
      intro u u' _ _ h
      have hopening := hv.opening_eq hw h
      obtain ⟨depth, rfl⟩ := hv.exists_eq_succ rfl
      cases hw.isData with
      | @record r' _ _ =>
          rw [chars_record, chars_record] at h
          obtain ⟨hall, hrest⟩ := forall₂_of_fields
            (R := fun v w => equalWithin st depth v w = true)
            (fun a ha => (hv.fields a ha).1) (fun b hb => (hw.fields b hb).1)
            (fun a ha b hb => ih a ha (hv.fields a ha).2 (hw.fields b hb).2) (by simpa using h)
          exact ⟨equalWithin_iff_alike.mpr (.record (Or.inr (rel_lookup_of_forall₂ hall))), hrest⟩
      | _ => cases hopening

end DataWithin

end

end

end Value

/-- **Rendered lists are unambiguous.** Two lists that hold no NaN, no object, no class, group or function,
at whatever depth, and from which no cycle is reached are equal if they are written alike, provided that
fields of records are named by words. -/
theorem text_determines_lists (st : Store) (a b : ListRef) (ha : (Value.list a).IsData st)
    (hb : (Value.list b).IsData st) (ha' : (Value.list a).WellNested st)
    (hb' : (Value.list b).WellNested st) (h : (Value.list a).text st = (Value.list b).text st) :
    (Value.list a).equal st (.list b) = true := by
  have hdetermines := Value.DataWithin.determines ⟨ha, ha', ha'.rank_le⟩ ⟨hb, hb', hb'.rank_le⟩
  exact (hdetermines [] [] (startsIn_nil _) (startsIn_nil _)
    (congrArg (fun text => text.toList ++ []) h)).1

/-- Two lists of a string, which looks like the rest of a list, and a record. The zeros in the records
differ in their signs only, which are not written. -/
theorem lists_with_two_zeros :
    let s := "a\", [\\"
    let st : Store :=
      { lists := #[#[.string s, .record ⟨0⟩], #[.string s, .record ⟨1⟩]]
        records := #[.ofList [("x", .number 0)], .ofList [("x", .number (-0))]] }
    (Value.list ⟨0⟩).IsData st ∧ (Value.list ⟨1⟩).IsData st ∧ (Value.list ⟨0⟩).WellNested st ∧
      (Value.list ⟨1⟩).WellNested st ∧
      (Value.list ⟨0⟩).text st = "[\"a\\\", [\\\\\", (x: 0)]" ∧
      (Value.list ⟨1⟩).text st = (Value.list ⟨0⟩).text st ∧
      (Value.list ⟨0⟩).equal st (.list ⟨1⟩) = true := by
  intro s st
  have hflat : ∀ v : Value, v.container? = none → v.WellNested st := by
    intro v hv
    refine .of_inside (fun c hc => ?_) fun c w hc => ?_
    · cases hv.symm.trans hc
    · cases hv.symm.trans hc
  have hrecord : ∀ (r : RecordRef) (x : Float), st.HasRecord r → x.isNaN = false →
      (st.record r).entries = [("x", .number x)] →
      (Value.record r).IsData st ∧ (Value.record r).WellNested st := by
    intro r x hhas hx hentries
    refine ⟨.record ?_ ?_, .of_inside ?_ ?_⟩
    · simp only [hentries, List.mem_singleton, forall_eq]
      decide
    · simpa [hentries] using Value.IsData.number hx
    · rintro c ⟨⟩
      exact hhas
    · rintro c v ⟨⟩ ⟨y, hy⟩
      have hmem := Table.mem_of_find?_eq_some hy
      rw [hentries] at hmem
      cases List.mem_singleton.mp hmem
      exact hflat _ rfl
  have hlist : ∀ (l : ListRef) (r : RecordRef), st.HasList l → st.list l = #[.string s, .record r] →
      (Value.record r).IsData st ∧ (Value.record r).WellNested st →
      (Value.list l).IsData st ∧ (Value.list l).WellNested st := by
    intro l r hhas hitems ⟨hdata, hnested⟩
    refine ⟨.list ?_, .of_inside ?_ ?_⟩
    · simpa [hitems] using ⟨Value.IsData.string s, hdata⟩
    · rintro c ⟨⟩
      exact hhas
    · rintro c v ⟨⟩ hv
      have hmem : v ∈ st.list l := hv
      rw [hitems] at hmem
      obtain rfl | rfl := by simpa using hmem
      · exact hflat _ rfl
      · exact hnested
  obtain ⟨ha, ha'⟩ := hlist ⟨0⟩ ⟨0⟩ Nat.zero_lt_two rfl
    (hrecord ⟨0⟩ 0 Nat.zero_lt_two (by decide) rfl)
  obtain ⟨hb, hb'⟩ := hlist ⟨1⟩ ⟨1⟩ Nat.one_lt_two rfl
    (hrecord ⟨1⟩ (-0) Nat.one_lt_two (by decide) rfl)
  have htext : (Value.list ⟨0⟩).text st = "[\"a\\\", [\\\\\", (x: 0)]" := by decide +kernel
  have htext' : (Value.list ⟨1⟩).text st = "[\"a\\\", [\\\\\", (x: 0)]" := by decide +kernel
  have hsame : (Value.list ⟨1⟩).text st = (Value.list ⟨0⟩).text st := htext'.trans htext.symm
  exact ⟨ha, hb, ha', hb', htext, hsame, text_determines_lists st ⟨0⟩ ⟨1⟩ ha hb ha' hb' hsame.symm⟩

end RecordLang
