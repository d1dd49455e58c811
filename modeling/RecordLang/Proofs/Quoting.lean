import Mathlib.Tactic
import RecordLang.Proofs.Delimiters
import RecordLang.Text.Quoted

/-!
Quoted text can be read back.

What is written for a character between quotes does not start with a quote, and it ends where it ends:
whatever follows, it determines the character. So the first quote that is not part of an escape ends the
text, and everything before it determines the string.

* `Text.eq_of_toDigits_eq`: hexadecimal digits determine the number.
* `Text.escape_cases`: a character itself, a backslash and a letter, or its number.
* `Text.determines_escape`: where the escape of a character ends.
* `Text.determines_quoted`: where a quoted string ends.
-/

namespace RecordLang.Text

/-! ### Hexadecimal digits -/

lemma digitChar_inj {m n : Nat} (hm : m < 16) (hn : n < 16) (h : Nat.digitChar m = Nat.digitChar n) :
    m = n := by
  have hdigits : ∀ a b : Fin 16, Nat.digitChar a = Nat.digitChar b → a = b := by decide
  exact congrArg Fin.val (hdigits ⟨m, hm⟩ ⟨n, hn⟩ h)

lemma ne_brace_of_mem_toDigits (n : Nat) : ∀ c ∈ Nat.toDigits 16 n, c ≠ '\x7d' := by
  induction n using Nat.strong_induction_on with
  | _ n ih =>
      rw [Nat.toDigits_eq_if (by decide)]
      split
      case isTrue => simp
      case isFalse hn =>
        rw [List.forall_mem_append]
        exact ⟨ih (n / 16) (by omega), by simp⟩

/-- The digits of a number determine it, the last digit first. -/
lemma eq_of_toDigits_eq {m n : Nat} (h : Nat.toDigits 16 m = Nat.toDigits 16 n) : m = n := by
  induction m using Nat.strong_induction_on generalizing n with
  | _ m ih =>
      have hshort : ∀ {a b : Nat} {c : Char}, [c] ≠ Nat.toDigits 16 a ++ [Nat.digitChar b] := by
        intro a b c heq
        have := congrArg List.length heq
        have hpos : 0 < (Nat.toDigits 16 a).length := Nat.length_toDigits_pos
        rw [List.length_append, List.length_singleton, List.length_singleton] at this
        omega
      rw [Nat.toDigits_eq_if (n := m) (by decide), Nat.toDigits_eq_if (n := n) (by decide)] at h
      split at h <;> split at h
      case isTrue.isTrue hm hn => exact digitChar_inj hm hn (List.singleton_injective h)
      case isTrue.isFalse => exact absurd h hshort
      case isFalse.isTrue => exact absurd h.symm hshort
      case isFalse.isFalse hm hn =>
        obtain ⟨hinit, hlast⟩ := List.append_inj' h rfl
        have hquotient := ih (m / 16) (by omega) hinit
        have hrest := digitChar_inj (Nat.mod_lt m (by decide)) (Nat.mod_lt n (by decide))
          (List.singleton_injective hlast)
        omega

/-! ### Escapes -/

/-- The character that a letter behind a backslash stands for. -/
def unescape (c : Char) : Char :=
  if c = 'n' then '\n'
  else if c = 'r' then '\r'
  else if c = 't' then '\t'
  else if c = '0' then '\x00'
  else c

/-- **What is written for a character.** The letter behind a backslash tells its number from the other
escapes. -/
lemma escape_cases (c : Char) :
    (escape c = [c] ∧ c ≠ '"' ∧ c ≠ '\\') ∨
    (∃ d, escape c = ['\\', d] ∧ d ≠ 'u' ∧ unescape d = c) ∨
    escape c = numbered c := by
  unfold escape
  split_ifs with hquote hbackslash hn hr ht hzero hinvisible
  · exact Or.inr (Or.inl ⟨'"', rfl, by decide, hquote.symm⟩)
  · exact Or.inr (Or.inl ⟨'\\', rfl, by decide, hbackslash.symm⟩)
  · exact Or.inr (Or.inl ⟨'n', rfl, by decide, hn.symm⟩)
  · exact Or.inr (Or.inl ⟨'r', rfl, by decide, hr.symm⟩)
  · exact Or.inr (Or.inl ⟨'t', rfl, by decide, ht.symm⟩)
  · exact Or.inr (Or.inl ⟨'0', rfl, by decide, hzero.symm⟩)
  · exact Or.inr (Or.inr rfl)
  · exact Or.inl ⟨rfl, hquote, hbackslash⟩

lemma escape_append_ne_quote (c : Char) (u v : List Char) : escape c ++ u ≠ '"' :: v := by
  obtain ⟨heq, hquote, -⟩ | ⟨d, heq, -, -⟩ | heq := escape_cases c
  · simp [heq, hquote]
  · simp [heq]
  · simp [heq, numbered]

/-- Numbers end at the brace. -/
lemma determines_numbered {c d : Char} {u v : List Char} (h : numbered c ++ u = numbered d ++ v) :
    c = d ∧ u = v := by
  have hdigits : Nat.toDigits 16 c.toNat ++ '\x7d' :: u = Nat.toDigits 16 d.toNat ++ '\x7d' :: v := by
    simpa [numbered] using h
  have hbrace : ∀ n, ∀ e ∈ Nat.toDigits 16 n, (e != '\x7d') = true :=
    fun n e he => bne_iff_ne.mpr (ne_brace_of_mem_toDigits n e he)
  obtain ⟨hcd, huv⟩ := append_inj_of_forall (hbrace _) (hbrace _) (startsIn_cons.mpr (by decide))
    (startsIn_cons.mpr (by decide)) hdigits
  exact ⟨Char.toNat_inj.mp (eq_of_toDigits_eq hcd), List.tail_eq_of_cons_eq huv⟩

/-- **Where an escape ends**: the characters written for a character determine it, whatever follows. -/
lemma determines_escape {c d : Char} {u v : List Char} (h : escape c ++ u = escape d ++ v) :
    c = d ∧ u = v := by
  obtain ⟨hc, -, hc'⟩ | ⟨e, hc, he, hunescape⟩ | hc := escape_cases c <;>
    obtain ⟨hd, -, hd'⟩ | ⟨e', hd, he', hunescape'⟩ | hd := escape_cases d <;> rw [hc, hd] at h
  · simpa using h
  · simp [hc'] at h
  · simp [hc', numbered] at h
  · simp [hd'.symm] at h
  · obtain ⟨rfl, rfl⟩ : e = e' ∧ u = v := by simpa using h
    exact ⟨hunescape.symm.trans hunescape', rfl⟩
  · simp [numbered, he] at h
  · simp [numbered, hd'.symm] at h
  · simp [numbered, he'.symm] at h
  · exact determines_numbered h

/-! ### Quoted strings -/

/-- Escapes up to the closing quote determine the characters, by induction on them. -/
lemma determines_escapes {cs ds u v : List Char}
    (h : cs.flatMap escape ++ '"' :: u = ds.flatMap escape ++ '"' :: v) : cs = ds ∧ u = v := by
  induction cs generalizing ds with
  | nil =>
      cases ds with
      | nil => exact ⟨rfl, List.tail_eq_of_cons_eq h⟩
      | cons d ds =>
          rw [List.flatMap_cons, List.append_assoc] at h
          exact absurd h.symm (escape_append_ne_quote d _ _)
  | cons c cs ih =>
      cases ds with
      | nil =>
          rw [List.flatMap_cons, List.append_assoc] at h
          exact absurd h (escape_append_ne_quote c _ _)
      | cons d ds =>
          rw [List.flatMap_cons, List.flatMap_cons, List.append_assoc, List.append_assoc] at h
          obtain ⟨rfl, hrest⟩ := determines_escape h
          obtain ⟨rfl, huv⟩ := ih hrest
          exact ⟨rfl, huv⟩

/-- **Where a quoted string ends**: its text determines it, whatever follows. -/
theorem determines_quoted {s t : String} {u v : List Char}
    (h : (quoted s).toList ++ u = (quoted t).toList ++ v) : s = t ∧ u = v := by
  have hescapes : s.toList.flatMap escape ++ '"' :: u = t.toList.flatMap escape ++ '"' :: v := by
    simpa [quoted] using h
  obtain ⟨hst, huv⟩ := determines_escapes hescapes
  exact ⟨String.toList_inj.mp hst, huv⟩

end RecordLang.Text
