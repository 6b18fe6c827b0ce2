import Mathlib
import ScriptCore.Json.Parser
import ScriptCore.Json.Printer

/-!
# Reading printed JSON

The reader gets back every JSON value without floats from its compact text,
whatever follows the text, as long as that could not be the rest of a number.
The value has to be readable at all: no deeper than the reader goes, integers
within the range that the reader keeps exact, and different names in an object.

The proof follows the text: strings one character at a time, numerals digit by
digit, containers item by item.
-/

namespace ScriptCore
namespace Json

/-- The values without floats that the reader keeps as they are, with the number
of containers that may be opened. -/
inductive Readable : Nat → Json → Prop
  | null {depth : Nat} : Readable depth null
  | bool {depth : Nat} (value : Bool) : Readable depth (bool value)
  | integer {depth : Nat} {n : Int} (above : -2 ^ 63 ≤ n) (below : n < 2 ^ 64) :
      Readable depth (integer n)
  | string {depth : Nat} (text : String) : Readable depth (string text)
  | array {depth : Nat} {items : List Json} (readable : ∀ item ∈ items, Readable depth item) :
      Readable (depth + 1) (array items)
  | object {depth : Nat} {members : List (String × Json)}
      (different : (members.map Prod.fst).Nodup)
      (readable : ∀ member ∈ members, Readable depth member.2) :
      Readable (depth + 1) (object members)

/-! ## Strings -/

theorem hexValue?_digitChar (digit : Nat) (small : digit < 16) :
    hexValue? (Nat.digitChar digit) = some digit := by
  revert digit
  decide

/-- A short escape is read as its character. -/
theorem readString_shortEscape {letter char : Char} (rest : List Char)
    (notUnit : letter ≠ 'u') (short : shortEscape? letter = some char) :
    readString ('\\' :: letter :: rest) =
      (readString rest).map fun (chars, remaining) => (char :: chars, remaining) := by
  rw [readString]
  · simp [short, Option.map_eq_bind]
  · rintro a b c d more rfl
    exact absurd rfl notUnit

theorem hexUnit?_control {code : Nat} (control : code < 0x20) :
    hexUnit? '0' '0' (Nat.digitChar (code / 16)) (Nat.digitChar (code % 16)) = some code := by
  have zero : hexValue? '0' = some 0 := by decide
  have high := hexValue?_digitChar (code / 16) (by omega)
  have low := hexValue?_digitChar (code % 16) (by omega)
  have whole : code / 16 * 16 + code % 16 = code := by omega
  simp [hexUnit?, zero, high, low, whole]

/-- An escaped control character is read as that character. -/
theorem readString_control {char : Char} (rest : List Char) (control : char.toNat < 0x20) :
    readString
        ('\\' :: 'u' :: '0' :: '0' :: Nat.digitChar (char.toNat / 16) ::
          Nat.digitChar (char.toNat % 16) :: rest) =
      (readString rest).map fun (chars, remaining) => (char :: chars, remaining) := by
  have noLow : isLowSurrogate char.toNat = false := by
    simp only [isLowSurrogate, Bool.and_eq_false_iff, decide_eq_false_iff_not]
    omega
  have noHigh : isHighSurrogate char.toNat = false := by
    simp only [isHighSurrogate, Bool.and_eq_false_iff, decide_eq_false_iff_not]
    omega
  rw [readString, hexUnit?_control control]
  simp [noLow, noHigh, Option.map_eq_bind]

/-- Reading one character of a string undoes its escape. -/
theorem readString_escapeChar (char : Char) (rest : List Char) :
    readString (escapeChar char ++ rest) =
      (readString rest).map fun (chars, remaining) => (char :: chars, remaining) := by
  unfold escapeChar
  split_ifs with quote backslash backspace formFeed lineFeed carriageReturn tab control
  · subst quote
    exact readString_shortEscape rest (by decide) (by decide)
  · subst backslash
    exact readString_shortEscape rest (by decide) (by decide)
  · subst backspace
    exact readString_shortEscape rest (by decide) (by decide)
  · subst formFeed
    exact readString_shortEscape rest (by decide) (by decide)
  · subst lineFeed
    exact readString_shortEscape rest (by decide) (by decide)
  · subst carriageReturn
    exact readString_shortEscape rest (by decide) (by decide)
  · subst tab
    exact readString_shortEscape rest (by decide) (by decide)
  · exact readString_control rest control
  · rw [List.singleton_append, readString]
    · simp [control, backslash, Option.map_eq_bind]
    · exact quote
    · rintro a b c d more same
      exact absurd same backslash
    · rintro letter more same
      exact absurd same backslash

/-- Reading a string up to its closing quote undoes all its escapes. -/
theorem readString_escaped (text rest : List Char) :
    readString (text.flatMap escapeChar ++ '\x22' :: rest) = some (text, rest) := by
  induction text with
  | nil => rfl
  | cons char text ih =>
      rw [List.flatMap_cons, List.append_assoc, readString_escapeChar, ih]
      rfl

/-! ## Numerals -/

/-- What may follow a numeral: no digit, no point and no exponent. -/
def Delimited (rest : List Char) : Prop :=
  ∀ char ∈ rest.head?, char.isDigit = false ∧ char ≠ '.' ∧ char ≠ 'e' ∧ char ≠ 'E'

theorem delimited_nil : Delimited [] := by
  simp [Delimited]

theorem delimited_cons {char : Char} (rest : List Char)
    (apart : char.isDigit = false ∧ char ≠ '.' ∧ char ≠ 'e' ∧ char ≠ 'E') :
    Delimited (char :: rest) := by
  simpa [Delimited] using apart

/-- Digits are read up to what ends a number. -/
theorem splitDigits_append {digits rest : List Char}
    (all : ∀ digit ∈ digits, digit.isDigit = true)
    (delimited : Delimited rest) :
    splitDigits (digits ++ rest) = (digits, rest) := by
  have first : ∀ char ∈ rest.head?, ¬ char.isDigit = true := fun char here => by
    simp [(delimited char here).1]
  have none : rest.takeWhile Char.isDigit = [] ∧ rest.dropWhile Char.isDigit = rest := by
    cases rest with
    | nil => exact ⟨rfl, rfl⟩
    | cons char rest =>
        have apart : ¬ char.isDigit = true := first char rfl
        simp [apart]
  rw [splitDigits, List.takeWhile_append_of_pos all, List.dropWhile_append_of_pos all, none.1,
    none.2, List.append_nil]

/-- More digits make no smaller number. -/
theorem le_ofDigitChars (digits : List Char) (total : Nat) :
    total ≤ Nat.ofDigitChars 10 digits total := by
  induction digits generalizing total with
  | nil => exact Nat.le_refl total
  | cons digit digits ih =>
      rw [Nat.ofDigitChars_cons]
      exact Nat.le_trans (by omega) (ih _)

/-- Digits of a number within the limit are all read. -/
theorem accumulate_eq {limit : Nat} (digits : List Char) (total : Nat)
    (fits : Nat.ofDigitChars 10 digits total ≤ limit) :
    accumulate limit total digits = (Nat.ofDigitChars 10 digits total, []) := by
  induction digits generalizing total with
  | nil => rfl
  | cons digit digits ih =>
      have next : 10 * total + (digit.toNat - '0'.toNat) = total * 10 + digitValue digit := by
        rw [digitValue]
        omega
      rw [Nat.ofDigitChars_cons, next] at fits ⊢
      have within : ¬ limit < total * 10 + digitValue digit :=
        Nat.not_lt.mpr (Nat.le_trans (le_ofDigitChars digits _) fits)
      rw [accumulate, if_neg within]
      exact ih _ fits

/-- The digits of a positive number start with none that is zero. -/
theorem head?_toDigits_ne_zero {n : Nat} (positive : 0 < n) :
    (Nat.toDigits 10 n).head? ≠ some '0' := by
  induction n using Nat.strongRecOn with
  | ind n ih =>
    rw [Nat.toDigits_eq_if (by decide)]
    split
    · next small =>
      interval_cases n <;> decide
    · next large =>
      rw [List.head?_append_of_ne_nil _ Nat.toDigits_ne_nil]
      exact ih (n / 10) (by omega) (by omega)

/-- The digits of a number that fits are read as that number. -/
theorem readNumber_toDigits (negative : Bool) (n : Nat) {rest : List Char}
    (fits : n ≤ maxSignificand)
    (delimited : Delimited rest) :
    readNumber negative (Nat.toDigits 10 n ++ rest) = some (ofWhole negative n, rest) := by
  have digits : ∀ digit ∈ Nat.toDigits 10 n, digit.isDigit = true := fun digit =>
    Nat.isDigit_of_mem_toDigits (by decide) (by decide)
  have value : Nat.ofDigitChars 10 (Nat.toDigits 10 n) 0 = n := Nat.ofDigitChars_ten_toDigits
  have proper : ((Nat.toDigits 10 n).isEmpty ||
      ((Nat.toDigits 10 n).head? == some '0' && decide (1 < (Nat.toDigits 10 n).length))) =
        false := by
    rcases Nat.eq_zero_or_pos n with rfl | positive
    · decide
    · simp [Nat.toDigits_ne_nil, head?_toDigits_ne_zero positive]
  have read : accumulate maxSignificand 0 (Nat.toDigits 10 n) = (n, []) := by
    rw [accumulate_eq _ _ (value.symm ▸ fits), value]
  rw [readNumber, splitDigits_append digits delimited]
  simp only [proper, read, Bool.false_eq_true, if_false, List.isEmpty_nil, if_true]
  cases rest with
  | nil => rfl
  | cons char rest =>
      obtain ⟨-, noPoint, noSmall, noLarge⟩ := delimited char rfl
      split
      · next same => cases same; exact absurd rfl noPoint
      · next same => cases same; exact absurd rfl noSmall
      · next same => cases same; exact absurd rfl noLarge
      · rfl

/-! ## Values -/

/-- Characters that the text of a value without floats can start with. -/
def isFirst (char : Char) : Bool :=
  char.isDigit || ['n', 't', 'f', '-', '\x22', '[', '\x7b'].contains char

theorem isFirst_of_isDigit {char : Char} (digit : char.isDigit = true) : isFirst char = true := by
  simp [isFirst, digit]

/-- No value begins with a blank. -/
theorem skipBlanks_cons (first : Char) (rest : List Char) (starts : isFirst first = true) :
    skipBlanks (first :: rest) = first :: rest := by
  have notBlank : isBlank first = false := by
    by_contra blank
    simp only [isBlank, Bool.not_eq_false, Bool.or_eq_true, decide_eq_true_eq] at blank
    rcases blank with ((rfl | rfl) | rfl) | rfl <;> revert starts <;> decide
  simp [skipBlanks, notBlank]

theorem chars_integer (n : Int) :
    (integer n).chars =
      if 0 ≤ n then Nat.toDigits 10 n.toNat else '-' :: Nat.toDigits 10 (-n).toNat := by
  have text : toString n = n.repr := rfl
  rw [chars, text, Int.repr_eq_if]
  split
  · rw [Nat.toList_repr]
  · simp [Nat.toList_repr]

theorem exists_toDigits_cons (n : Nat) :
    ∃ first more, Nat.toDigits 10 n = first :: more ∧ first.isDigit = true := by
  obtain ⟨first, more, digits⟩ :=
    List.exists_cons_of_ne_nil (Nat.toDigits_ne_nil (b := 10) (n := n))
  refine ⟨first, more, digits, ?_⟩
  exact Nat.isDigit_of_mem_toDigits (by decide) (by decide) (digits ▸ List.mem_cons_self)

/-- The text of a readable value begins with a character that tells its kind. -/
theorem Readable.chars_cons {depth : Nat} {json : Json} (readable : Readable depth json) :
    ∃ first more, json.chars = first :: more ∧ isFirst first = true := by
  cases readable with
  | null => exact ⟨_, _, rfl, by decide⟩
  | bool value => cases value <;> exact ⟨_, _, rfl, by decide⟩
  | @integer _ n above below =>
      rw [chars_integer]
      split
      · obtain ⟨first, more, digits, isDigit⟩ := exists_toDigits_cons n.toNat
        exact ⟨first, more, digits, isFirst_of_isDigit isDigit⟩
      · exact ⟨_, _, rfl, by decide⟩
  | string text => exact ⟨_, _, rfl, by decide⟩
  | array readable => exact ⟨_, _, rfl, by decide⟩
  | object different readable => exact ⟨_, _, rfl, by decide⟩

/-- The reader gets the value back from its text, with enough fuel and whatever
may follow a numeral behind it. -/
def ReadsBack (depth : Nat) (json : Json) : Prop :=
  ∀ fuel rest, 2 * json.chars.length ≤ fuel → Delimited rest →
    readValue fuel depth (json.chars ++ rest) = some (json, rest)

/-- It is enough to read a value back with fuel left over. -/
theorem readsBack_of_succ {depth : Nat} {json : Json}
    (text : json.chars ≠ [])
    (reads : ∀ fuel rest, 2 * json.chars.length ≤ fuel + 1 → Delimited rest →
      readValue (fuel + 1) depth (json.chars ++ rest) = some (json, rest)) :
    ReadsBack depth json := by
  intro fuel rest enough delimited
  cases fuel with
  | zero =>
      have length : json.chars.length = 0 := by omega
      exact absurd (List.eq_nil_of_length_eq_zero length) text
  | succ fuel => exact reads fuel rest enough delimited

/-- A text that begins with a digit is read as a number. -/
theorem readValue_digit {fuel depth : Nat} {first : Char} {more : List Char}
    (digit : first.isDigit = true) :
    readValue (fuel + 1) depth (first :: more) = readNumber false (first :: more) := by
  rw [readValue, skipBlanks_cons first more (isFirst_of_isDigit digit)]
  split
  case h_8 => rfl
  all_goals
    next same =>
    cases same
    exact absurd digit (by decide)

theorem readsBack_null {depth : Nat} : ReadsBack depth null := by
  refine readsBack_of_succ (by decide) fun fuel rest _ _ => ?_
  rw [chars, List.cons_append, readValue, skipBlanks_cons _ _ (by decide)]
  rfl

theorem readsBack_bool {depth : Nat} (value : Bool) : ReadsBack depth (bool value) := by
  refine readsBack_of_succ (by cases value <;> decide) fun fuel rest _ _ => ?_
  cases value <;> rw [chars, List.cons_append, readValue, skipBlanks_cons _ _ (by decide)] <;> rfl

/-- A negative integer is read from its magnitude. -/
theorem ofWhole_negative {n : Int} (above : -2 ^ 63 ≤ n) (negative : ¬ 0 ≤ n) :
    ofWhole true (-n).toNat = integer n := by
  have inside : ((-n).toNat = 0 || Nat.pow 2 63 < (-n).toNat : Bool) = false := by
    have power : Nat.pow 2 63 = 2 ^ 63 := rfl
    simp only [power, Bool.or_eq_false_iff, decide_eq_false_iff_not]
    omega
  rw [ofWhole]
  simp only [Bool.not_true, Bool.false_eq_true, if_false, inside]
  congr 1
  omega

/-- The text of an integer is read back, within the range of 64 bits with or
without a sign. -/
theorem readsBack_integer {depth : Nat} {n : Int} (above : -2 ^ 63 ≤ n) (below : n < 2 ^ 64) :
    ReadsBack depth (integer n) := by
  have limit : maxSignificand = 2 ^ 64 - 1 := rfl
  by_cases natural : 0 ≤ n
  · have text : (integer n).chars = Nat.toDigits 10 n.toNat := by
      rw [chars_integer, if_pos natural]
    obtain ⟨first, more, digits, isDigit⟩ := exists_toDigits_cons n.toNat
    refine readsBack_of_succ (by rw [text]; exact Nat.toDigits_ne_nil) ?_
    intro fuel rest _ delimited
    have read := readNumber_toDigits false n.toNat (by omega) delimited
    rw [text]
    rw [digits, List.cons_append] at read ⊢
    rw [readValue_digit isDigit, read, ofWhole]
    simp [natural]
  · have text : (integer n).chars = '-' :: Nat.toDigits 10 (-n).toNat := by
      rw [chars_integer, if_neg natural]
    refine readsBack_of_succ (by rw [text]; exact List.cons_ne_nil _ _) ?_
    intro fuel rest _ delimited
    have read := readNumber_toDigits true (-n).toNat (by omega) delimited
    rw [text, List.cons_append, readValue, skipBlanks_cons _ _ (by decide)]
    rw [ofWhole_negative above natural] at read
    exact read

theorem readsBack_string {depth : Nat} (text : String) : ReadsBack depth (string text) := by
  refine readsBack_of_succ (List.cons_ne_nil _ _) fun fuel rest _ _ => ?_
  have read := readString_escaped text.toList rest
  rw [chars, stringText, List.cons_append, List.cons_append, List.append_assoc,
    List.singleton_append, readValue, skipBlanks_cons _ _ (by decide)]
  simp [read]

theorem commaSeparated_cons {part : List Char} {parts : List (List Char)} (more : parts ≠ []) :
    commaSeparated (part :: parts) = part ++ ',' :: commaSeparated parts := by
  rw [commaSeparated]
  exact more

theorem chars_array (items : List Json) :
    (array items).chars = '[' :: commaSeparated (items.map chars) ++ [']'] := by
  have texts : itemChars items = items.map chars := by
    induction items with
    | nil => rfl
    | cons item items ih => rw [itemChars, ih, List.map_cons]
  rw [chars, texts]

/-- The text of a member. -/
def memberText (member : String × Json) : List Char :=
  stringText member.1 ++ ':' :: member.2.chars

/-- An object is written as its members in braces. -/
theorem chars_object (members : List (String × Json)) :
    (object members).chars = '\x7b' :: commaSeparated (members.map memberText) ++ ['\x7d'] := by
  have texts : memberChars members = members.map memberText := by
    induction members with
    | nil => rfl
    | cons member members ih =>
        rw [memberChars, ih, List.map_cons, memberText]
  rw [chars, texts]

theorem skipBlanks_mark (mark : Char) (rest : List Char) (apart : isBlank mark = false) :
    skipBlanks (mark :: rest) = mark :: rest := by
  simp [skipBlanks, apart]

/-- The items of an array that is not empty, up to the closing bracket. -/
theorem readItems_chars {depth : Nat} (items : List Json)
    (readsBack : ∀ item ∈ items, ReadsBack depth item)
    (inhabited : items ≠ [])
    (fuel : Nat)
    (rest : List Char)
    (enough : 2 * (commaSeparated (items.map chars)).length + 3 ≤ fuel) :
    readItems fuel depth (commaSeparated (items.map chars) ++ ']' :: rest) =
      some (items, rest) := by
  induction items generalizing fuel with
  | nil => exact absurd rfl inhabited
  | cons item items ih =>
      obtain ⟨fuel, rfl⟩ : ∃ less, fuel = less + 1 := ⟨fuel - 1, by omega⟩
      rw [List.forall_mem_cons] at readsBack
      by_cases last : items = []
      · subst last
        simp only [List.map_cons, List.map_nil, commaSeparated] at enough ⊢
        rw [readItems, readsBack.1 fuel _ (by omega) (delimited_cons rest (by decide))]
        rfl
      · have parts : items.map chars ≠ [] := by simpa using last
        have later := ih readsBack.2 last fuel
        rw [List.map_cons, commaSeparated_cons parts] at enough ⊢
        rw [List.length_append, List.length_cons] at enough
        rw [List.append_assoc, List.cons_append, readItems,
          readsBack.1 fuel _ (by omega) (delimited_cons _ (by decide))]
        simp only [Option.bind_eq_bind, Option.bind_some,
          skipBlanks_mark ',' _ (by decide), later (by omega)]
        rfl

/-- One member and the mark behind it. -/
theorem readMembers_member {fuel depth : Nat} {value : Json} {mark : Char}
    (before : List (String × Json))
    (name : String)
    (rest : List Char)
    (readsBack : ReadsBack depth value)
    (enough : 2 * value.chars.length ≤ fuel)
    (isMark : mark = ',' ∨ mark = '\x7d') :
    readMembers (fuel + 1) depth before (memberText (name, value) ++ mark :: rest) =
      if mark = ',' then readMembers fuel depth (insertMember before name value) rest
      else some (insertMember before name value, rest) := by
  have read := readString_escaped name.toList (':' :: (value.chars ++ mark :: rest))
  have delimited : Delimited (mark :: rest) := by
    rcases isMark with rfl | rfl <;> exact delimited_cons rest (by decide)
  have notBlank : isBlank mark = false := by
    rcases isMark with rfl | rfl <;> decide
  have colon : isBlank ':' = false := by decide
  rw [memberText, stringText, List.cons_append, List.append_assoc, List.cons_append,
    List.append_assoc, List.cons_append, List.nil_append, List.cons_append, readMembers,
    skipBlanks_cons _ _ (by decide)]
  simp only [read, Option.bind_eq_bind, Option.bind_some, skipBlanks_mark ':' _ colon,
    readsBack fuel _ enough delimited, skipBlanks_mark mark _ notBlank, String.ofList_toList]
  rcases isMark with rfl | rfl <;> rfl

/-- The members of an object that is not empty, up to the closing brace. -/
theorem readMembers_chars {depth : Nat} (members before : List (String × Json))
    (readsBack : ∀ member ∈ members, ReadsBack depth member.2)
    (fresh : (before.map Prod.fst ++ members.map Prod.fst).Nodup)
    (inhabited : members ≠ [])
    (fuel : Nat)
    (rest : List Char)
    (enough : 2 * (commaSeparated (members.map memberText)).length + 3 ≤ fuel) :
    readMembers fuel depth before (commaSeparated (members.map memberText) ++ '\x7d' :: rest) =
      some (before ++ members, rest) := by
  induction members generalizing before fuel with
  | nil => exact absurd rfl inhabited
  | cons member members ih =>
      obtain ⟨fuel, rfl⟩ : ∃ less, fuel = less + 1 := ⟨fuel - 1, by omega⟩
      obtain ⟨name, value⟩ := member
      rw [List.forall_mem_cons] at readsBack
      obtain ⟨readsFirst : ReadsBack depth value, readsOthers⟩ := readsBack
      have absent : name ∉ before.map Prod.fst := by
        intro present
        rw [List.nodup_append] at fresh
        exact fresh.2.2 name present name (by simp) rfl
      have shorter : value.chars.length ≤ (memberText (name, value)).length := by
        simp only [memberText, List.length_append, List.length_cons]
        omega
      by_cases last : members = []
      · subst last
        simp only [List.map_cons, List.map_nil, commaSeparated] at enough ⊢
        rw [readMembers_member before name rest readsFirst (by omega) (.inr rfl),
          insertMember_of_absent absent]
        rfl
      · have parts : members.map memberText ≠ [] := by simpa using last
        have later := ih (before ++ [(name, value)]) readsOthers
          (by simpa using fresh) last fuel
        rw [List.map_cons, commaSeparated_cons parts] at enough ⊢
        rw [List.length_append, List.length_cons] at enough
        rw [List.append_assoc, List.cons_append,
          readMembers_member before name _ readsFirst (by omega) (.inl rfl), if_pos rfl,
          insertMember_of_absent absent, later (by omega), List.append_assoc]
        rfl

theorem exists_commaSeparated_cons (first : Char) (more : List Char) (parts : List (List Char)) :
    ∃ others, commaSeparated ((first :: more) :: parts) = first :: others := by
  cases parts <;> exact ⟨_, rfl⟩

/-- The text of an array is read back if those of its items are. -/
theorem readsBack_array {depth : Nat} {items : List Json}
    (readable : ∀ item ∈ items, Readable depth item)
    (readsBack : ∀ item ∈ items, ReadsBack depth item) :
    ReadsBack (depth + 1) (array items) := by
  refine readsBack_of_succ (List.cons_ne_nil _ _) fun fuel rest enough _ => ?_
  rw [chars_array, List.cons_append, List.length_cons, List.length_append, List.length_singleton]
    at enough
  rw [chars_array, List.cons_append, List.cons_append, List.append_assoc, List.singleton_append,
    readValue, skipBlanks_cons _ _ (by decide)]
  cases items with
  | nil => rfl
  | cons item items =>
      have read := readItems_chars (item :: items) readsBack (List.cons_ne_nil _ _) fuel rest
        (by omega)
      obtain ⟨first, more, starts, isFirst⟩ := (readable item List.mem_cons_self).chars_cons
      obtain ⟨others, text⟩ := exists_commaSeparated_cons first more (items.map chars)
      rw [List.map_cons, starts, text, List.cons_append] at read ⊢
      simp only [skipBlanks_cons first _ isFirst]
      split
      · next same =>
        cases same
        exact absurd isFirst (by decide)
      · rw [read]
        rfl

/-- The text of an object with different names is read back if those of its values
are. -/
theorem readsBack_object {depth : Nat} {members : List (String × Json)}
    (different : (members.map Prod.fst).Nodup)
    (readsBack : ∀ member ∈ members, ReadsBack depth member.2) :
    ReadsBack (depth + 1) (object members) := by
  refine readsBack_of_succ (List.cons_ne_nil _ _) fun fuel rest enough _ => ?_
  rw [chars_object, List.cons_append, List.length_cons, List.length_append, List.length_singleton]
    at enough
  rw [chars_object, List.cons_append, List.cons_append, List.append_assoc, List.singleton_append,
    readValue, skipBlanks_cons _ _ (by decide)]
  cases members with
  | nil => rfl
  | cons member members =>
      have read := readMembers_chars (member :: members) [] readsBack (by simpa using different)
        (List.cons_ne_nil _ _) fuel rest (by omega)
      obtain ⟨others, text⟩ := exists_commaSeparated_cons '\x22'
        (member.1.toList.flatMap escapeChar ++ ['\x22'] ++ ':' :: member.2.chars)
        (members.map memberText)
      have starts : commaSeparated ((member :: members).map memberText) = '\x22' :: others := text
      rw [starts, List.cons_append] at read ⊢
      simp only [skipBlanks_cons '\x22' _ (by decide)]
      split
      · next same => cases same
      · rw [read]
        rfl

/-- The reader gets every readable value back. -/
theorem Readable.readsBack {depth : Nat} {json : Json} (readable : Readable depth json) :
    ReadsBack depth json := by
  induction readable with
  | null => exact readsBack_null
  | bool value => exact readsBack_bool value
  | integer above below => exact readsBack_integer above below
  | string text => exact readsBack_string text
  | array readable readsBack => exact readsBack_array readable readsBack
  | object different readable readsBack => exact readsBack_object different readsBack

/-- Reading undoes printing. -/
theorem parse?_toText {json : Json} (readable : Readable maxDepth json) :
    parse? json.toText = some json := by
  have read := readable.readsBack (fuelFor json.chars) [] (by rw [fuelFor]; omega) delimited_nil
  rw [List.append_nil] at read
  simp only [parse?, toText, String.toList_ofList, read]
  rfl

end Json
end ScriptCore
