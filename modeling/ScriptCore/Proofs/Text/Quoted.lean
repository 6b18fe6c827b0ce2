import Mathlib
import ScriptCore.Text.Quoted

/-!
# Quoted text is unambiguous

A text between double quotes can be told from whatever follows it: the first
quote that is no part of an escape ends it, and what stands before that quote
determines the text. The same holds of the escaped form of a single character.

Which characters stand for themselves does not matter, as long as the quote and
the backslash do not.
-/

namespace ScriptCore
namespace Text

/-! ## Parts of a text -/

/-- Where a part ends before the first character of another kind, the whole
determines the part. -/
theorem append_inj_of_kind
    {kind : Char → Bool}
    {first second rest otherRest : List Char}
    (all : ∀ char ∈ first, kind char = true)
    (allOther : ∀ char ∈ second, kind char = true)
    (ends : ∀ char ∈ rest.head?, kind char = false)
    (endsOther : ∀ char ∈ otherRest.head?, kind char = false)
    (same : first ++ rest = second ++ otherRest) :
    first = second ∧ rest = otherRest := by
  induction first generalizing second with
  | nil =>
      cases second with
      | nil => exact ⟨rfl, same⟩
      | cons char second =>
          rw [List.nil_append, List.cons_append] at same
          have other := ends char (by simp [same])
          simp [other] at allOther
  | cons char first ih =>
      cases second with
      | nil =>
          rw [List.nil_append, List.cons_append] at same
          have other := endsOther char (by simp [← same])
          simp [other] at all
      | cons otherChar second =>
          obtain ⟨rfl, later⟩ := List.cons.inj same
          rw [List.forall_mem_cons] at all allOther
          obtain ⟨rfl, rests⟩ := ih all.2 allOther.2 later
          exact ⟨rfl, rests⟩

/-! ## Numerals -/

theorem digitChar_inj :
    ∀ digit < 16, ∀ other < 16, Nat.digitChar digit = Nat.digitChar other → digit = other := by
  decide

/-- The digits of a number determine it. -/
theorem toDigits_inj
    {base : Nat}
    (atLeast : 1 < base)
    (atMost : base ≤ 16)
    {m n : Nat}
    (same : Nat.toDigits base m = Nat.toDigits base n) :
    m = n := by
  induction m using Nat.strongRecOn generalizing n with
  | ind m ih =>
    have nonempty (k : Nat) : 0 < (Nat.toDigits base k).length := Nat.length_toDigits_pos
    rw [Nat.toDigits_eq_if atLeast, Nat.toDigits_eq_if atLeast (n := n)] at same
    split at same
    · next small =>
      split at same
      · next smallOther =>
        exact digitChar_inj m (by omega) n (by omega) (List.singleton_inj.mp same)
      · have lengths := congrArg List.length same
        have positive := nonempty (n / base)
        simp only [List.length_singleton, List.length_append] at lengths
        omega
    · next large =>
      split at same
      · have lengths := congrArg List.length same
        have positive := nonempty (m / base)
        simp only [List.length_singleton, List.length_append] at lengths
        omega
      · obtain ⟨front, last⟩ := List.append_inj' same rfl
        have below (k : Nat) : k % base < 16 :=
          Nat.lt_of_lt_of_le (Nat.mod_lt k (by omega)) atMost
        have quotient : m / base = n / base :=
          ih (m / base) (Nat.div_lt_self (by omega) atLeast) front
        have remainder : m % base = n % base :=
          digitChar_inj _ (below m) _ (below n) (List.singleton_inj.mp last)
        rw [← Nat.div_add_mod m base, ← Nat.div_add_mod n base, quotient, remainder]

/-- A written number consists of digits of its base. -/
theorem exists_digit_of_mem_toDigits
    {base n : Nat}
    (atLeast : 1 < base)
    {char : Char}
    (member : char ∈ Nat.toDigits base n) :
    ∃ digit < base, char = Nat.digitChar digit := by
  induction n using Nat.strongRecOn with
  | ind n ih =>
    rw [Nat.toDigits_eq_if atLeast] at member
    split at member
    · next small => exact ⟨n, small, List.mem_singleton.mp member⟩
    · next large =>
      rcases List.mem_append.mp member with front | last
      · exact ih (n / base) (Nat.div_lt_self (by omega) atLeast) front
      · exact ⟨n % base, Nat.mod_lt n (by omega), List.mem_singleton.mp last⟩

/-! ## Characters -/

/-- The character that a letter behind a backslash stands for. -/
def shortMeaning (letter : Char) : Char :=
  if letter = '0' then '\x00'
  else if letter = 't' then '\t'
  else if letter = 'r' then '\r'
  else if letter = 'n' then '\n'
  else letter

/-- The three forms of a character: a letter behind a backslash, the character
itself, or its code point. -/
theorem escapeChar_cases (char : Char) :
    (∃ letter, escapeChar '\x22' char = ['\\', letter] ∧ shortMeaning letter = char ∧
        letter ≠ 'u') ∨
      (escapeChar '\x22' char = [char] ∧ char ≠ '\\' ∧ char ≠ '\x22') ∨
      escapeChar '\x22' char = codePointEscape char := by
  unfold escapeChar
  split_ifs with null tab carriageReturn lineFeed quoted plain
  · exact .inl ⟨'0', rfl, null.symm, by decide⟩
  · exact .inl ⟨'t', rfl, tab.symm, by decide⟩
  · exact .inl ⟨'r', rfl, carriageReturn.symm, by decide⟩
  · exact .inl ⟨'n', rfl, lineFeed.symm, by decide⟩
  · simp only [Bool.or_eq_true, decide_eq_true_eq] at quoted
    rcases quoted with rfl | rfl <;> exact .inl ⟨_, rfl, by decide, by decide⟩
  · simp only [Bool.or_eq_true, decide_eq_true_eq, not_or] at quoted
    exact .inr (.inl ⟨rfl, quoted⟩)
  · exact .inr (.inr rfl)

/-- A hexadecimal number has no closing brace in it, so the brace ends it. -/
theorem ne_brace_of_mem_toDigits
    {n : Nat}
    {char : Char}
    (member : char ∈ Nat.toDigits 16 n) :
    (char != '\x7d') = true := by
  have apart : ∀ digit < 16, (Nat.digitChar digit != '\x7d') = true := by decide
  obtain ⟨digit, small, rfl⟩ := exists_digit_of_mem_toDigits (by decide) member
  exact apart digit small

/-- The escape of a code point tells the character and where it ends. -/
theorem codePointEscape_append_inj
    {char other : Char}
    {rest otherRest : List Char}
    (same : codePointEscape char ++ rest = codePointEscape other ++ otherRest) :
    char = other ∧ rest = otherRest := by
  simp only [codePointEscape, List.append_assoc, List.cons_append, List.nil_append,
    List.cons.injEq, true_and] at same
  obtain ⟨digits, rests⟩ := append_inj_of_kind (fun _ => ne_brace_of_mem_toDigits)
    (fun _ => ne_brace_of_mem_toDigits) (by simp) (by simp) same
  have codes : char.toNat = other.toNat := toDigits_inj (by decide) (by decide) digits
  exact ⟨Char.toNat_inj.mp codes, (List.cons.inj rests).2⟩

/-- The form of a character determines it, whatever follows. -/
theorem escapeChar_append_inj
    {char other : Char}
    {rest otherRest : List Char}
    (same : escapeChar '\x22' char ++ rest = escapeChar '\x22' other ++ otherRest) :
    char = other ∧ rest = otherRest := by
  rcases escapeChar_cases char with
      ⟨letter, form, means, notUnit⟩ | ⟨form, notBackslash, -⟩ | form <;>
    rcases escapeChar_cases other with
      ⟨letterOther, formOther, meansOther, notUnitOther⟩ | ⟨formOther, notBackslashOther, -⟩ |
        formOther <;>
    rw [form, formOther] at same
  · cases same
    exact ⟨means.symm.trans meansOther, rfl⟩
  · cases same
    exact absurd rfl notBackslashOther
  · cases same
    exact absurd rfl notUnit
  · cases same
    exact absurd rfl notBackslash
  · cases same
    exact ⟨rfl, rfl⟩
  · cases same
    exact absurd rfl notBackslash
  · cases same
    exact absurd rfl notUnitOther
  · cases same
    exact absurd rfl notBackslashOther
  · exact codePointEscape_append_inj same

/-- No character is written with a quote in front, so the first quote ends a
string. -/
theorem head?_escapeChar_ne_quote (char : Char) (rest : List Char) :
    (escapeChar '\x22' char ++ rest).head? ≠ some '\x22' := by
  rcases escapeChar_cases char with ⟨letter, form, -, -⟩ | ⟨form, -, notQuote⟩ | form <;> rw [form]
  · simp
  · simpa using notQuote
  · simp [codePointEscape]

/-! ## Texts -/

/-- A text between double quotes is determined by any text that starts with it. -/
theorem quotedWith_append_inj
    {chars others rest otherRest : List Char}
    (same : quotedWith '\x22' chars ++ rest = quotedWith '\x22' others ++ otherRest) :
    chars = others ∧ rest = otherRest := by
  have inner : chars.flatMap (escapeChar '\x22') ++ '\x22' :: rest =
      others.flatMap (escapeChar '\x22') ++ '\x22' :: otherRest := by
    simpa [quotedWith] using same
  clear same
  induction chars generalizing others with
  | nil =>
      cases others with
      | nil => exact ⟨rfl, (List.cons.inj inner).2⟩
      | cons other others =>
          rw [List.flatMap_cons, List.append_assoc] at inner
          exact absurd (congrArg List.head? inner).symm (head?_escapeChar_ne_quote other _)
  | cons char chars ih =>
      rw [List.flatMap_cons, List.append_assoc] at inner
      cases others with
      | nil => exact absurd (congrArg List.head? inner) (head?_escapeChar_ne_quote char _)
      | cons other others =>
          rw [List.flatMap_cons, List.append_assoc] at inner
          obtain ⟨rfl, later⟩ := escapeChar_append_inj inner
          obtain ⟨rfl, rests⟩ := ih later
          exact ⟨rfl, rests⟩

end Text
end ScriptCore
