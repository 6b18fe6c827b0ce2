import ScriptCore.Console.Line
import ScriptCore.OrderedMap.Spread
import ScriptCore.Proofs.Json.Reading
import ScriptCore.Proofs.Value.JsonInverse

/-!
# Printed values on a line

A plain value without floats, written as JSON on a line of the shell, is read as
that value. The line is split at blanks, so the text of a value has to stay in
one piece: its blanks are inside of quotes, its quotes and brackets match, and
neither end is a blank that trimming would remove.
-/

namespace ScriptCore

/-! ## Plain values are readable -/

namespace Value

mutual

/-- Number of containers around the innermost value. -/
def depth : Value → Nat
  | void => 0
  | bool _ => 0
  | int _ => 0
  | float _ => 0
  | str _ => 0
  | array ⟨⟨slots⟩, _, _, _, _⟩ => slotsDepth slots + 1
  | record ⟨_, ⟨⟨slots⟩, _, _, _, _⟩, _⟩ => slotsDepth slots + 1
  | function _ => 0
  | resource _ => 0
termination_by structural value => value

/-- The largest depth among the values in a slot list. -/
def slotsDepth : List (Slot Value) → Nat
  | [] => 0
  | .vacant :: slots => slotsDepth slots
  | .item value :: slots => max value.depth (slotsDepth slots)
  | .entry _ value :: slots => max value.depth (slotsDepth slots)
termination_by structural slots => slots

end

/-- No value in some slots is deeper than the slots. -/
theorem depth_le_slotsDepth {slots : List (Slot Value)} {value : Value}
    (member : value ∈ slots.filterMap Slot.value?) : value.depth ≤ slotsDepth slots := by
  induction slots with
  | nil => cases member
  | cons slot slots ih =>
      cases slot with
      | vacant => exact ih member
      | item first =>
          rw [slotsDepth]
          rcases List.mem_cons.mp member with rfl | later
          · exact Nat.le_max_left _ _
          · exact Nat.le_trans (ih later) (Nat.le_max_right _ _)
      | entry key first =>
          rw [slotsDepth]
          rcases List.mem_cons.mp member with rfl | later
          · exact Nat.le_max_left _ _
          · exact Nat.le_trans (ih later) (Nat.le_max_right _ _)

theorem depth_lt_array {items : OrderedMap Value} {value : Value}
    (member : value ∈ items.values) : value.depth < (array items).depth := by
  obtain ⟨⟨slots⟩, buckets, order, keyed, vacant⟩ := items
  rw [depth]
  exact Nat.lt_succ_of_le (depth_le_slotsDepth member)

/-- Whether a value is plain data without floats. -/
abbrev isPlainWithoutFloats (value : Value) : Bool :=
  value.isPlain fun _ => false

/-- A plain value without floats that is not too deep has a JSON form that can be
read. -/
theorem readable_toJson {value : Value} {limit : Nat}
    (plain : value.isPlainWithoutFloats = true)
    (shallow : value.depth ≤ limit) :
    Json.Readable limit value.toJson := by
  induction value using nested generalizing limit with
  | step value ih =>
    cases value with
    | void => exact .null
    | bool value => exact .bool value
    | int n =>
        have above := n.le_toInt
        have below := n.toInt_lt
        exact .integer above (by omega)
    | float x => cases plain
    | str bytes => exact .string _
    | array items =>
        rw [isPlainWithoutFloats, isPlain_array, Bool.and_eq_true, List.all_eq_true] at plain
        obtain ⟨limit, rfl⟩ : ∃ less, limit = less + 1 := by
          obtain ⟨⟨slots⟩, buckets, order, keyed, vacant⟩ := items
          rw [depth] at shallow
          exact ⟨limit - 1, by omega⟩
        have readable : ∀ child ∈ items.values, Json.Readable limit child.toJson := by
          intro child member
          have deeper := depth_lt_array member
          exact ih child member (plain.2 child member) (by omega)
        rcases SlotList.isUniform_cases plain.1 with
          ⟨values, slots⟩ | ⟨pairs, slots, different, inhabited⟩
        · rw [toJson_of_items slots]
          refine .array fun item member => ?_
          obtain ⟨child, inside, rfl⟩ := List.mem_map.mp member
          refine readable child ?_
          simpa [OrderedMap.values, slots] using inside
        · rw [toJson_of_pairs slots different inhabited]
          refine .object (by simpa [Function.comp_def] using different) fun member inside => ?_
          obtain ⟨pair, fromPairs, rfl⟩ := List.mem_map.mp inside
          refine readable pair.2 ?_
          simpa [OrderedMap.values, slots] using ⟨pair.1, fromPairs⟩
    | record content => cases plain
    | function f => cases plain
    | resource ref => cases plain

end Value

/-! ## One piece of a line -/

namespace Token

/-- Characters of a word: no blank, no quote and no bracket. -/
def isWordChar (char : Char) : Bool :=
  !Text.isBlank char &&
    decide (char ≠ '\x22' ∧ char ≠ '[' ∧ char ≠ ']' ∧ char ≠ '\x7b' ∧ char ≠ '\x7d')

/-- With these brackets open the text is added to the token at hand. -/
def Keeps (nesting text : List Char) : Prop :=
  ∀ current rest, splitFrom .plain nesting current (text ++ rest) =
    splitFrom .plain nesting (text.reverse ++ current) rest

theorem Keeps.append {nesting first second : List Char} (keepsFirst : Keeps nesting first)
    (keepsSecond : Keeps nesting second) : Keeps nesting (first ++ second) := by
  intro current rest
  rw [List.append_assoc, keepsFirst, keepsSecond, List.reverse_append, List.append_assoc]

/-- Outside of strings the text is added to the token at hand, whatever brackets
are open and whatever follows. -/
def Joins (text : List Char) : Prop :=
  ∀ nesting, Keeps nesting text

theorem joins_nil : Joins [] := by
  intro nesting current rest
  rfl

theorem joins_append {first second : List Char} (joinsFirst : Joins first)
    (joinsSecond : Joins second) : Joins (first ++ second) :=
  fun nesting => Keeps.append (joinsFirst nesting) (joinsSecond nesting)

/-- A character of a word stays in one piece with what is before and after it. -/
theorem joins_char {char : Char} (word : isWordChar char = true) : Joins [char] := by
  intro nesting current rest
  rw [isWordChar, Bool.and_eq_true, Bool.not_eq_true', decide_eq_true_eq] at word
  obtain ⟨notBlank, quote, openBracket, closeBracket, openBrace, closeBrace⟩ := word
  have noOpening : isOpening char = false := by
    simp [isOpening, openBracket, openBrace]
  have noClosing : opening? char = none := by
    simp [opening?, closeBracket, closeBrace]
  rw [List.singleton_append, splitFrom]
  simp [quote, noOpening, noClosing, notBlank]

/-- A word stays in one piece. -/
theorem joins_word {text : List Char} (word : text.all isWordChar = true) : Joins text := by
  induction text with
  | nil => exact joins_nil
  | cons char text ih =>
      rw [List.all_cons, Bool.and_eq_true] at word
      exact joins_append (joins_char word.1) (ih word.2)

theorem splitFrom_quoted {char : Char} (nesting current rest : List Char)
    (notBackslash : char ≠ '\\') (notQuote : char ≠ '\x22') :
    splitFrom .quoted nesting current (char :: rest) =
      splitFrom .quoted nesting (char :: current) rest := by
  rw [splitFrom]
  simp [notBackslash, notQuote]

theorem digitChar_inside (digit : Nat) (small : digit < 16) :
    Nat.digitChar digit ≠ '\\' ∧ Nat.digitChar digit ≠ '\x22' := by
  revert digit
  decide

/-- Inside a string an escaped control character is added to the token. -/
theorem splitFrom_control {code : Nat} (nesting current rest : List Char)
    (control : code < 0x20) :
    splitFrom .quoted nesting current
        ('\\' :: 'u' :: '0' :: '0' :: Nat.digitChar (code / 16) :: Nat.digitChar (code % 16) ::
          rest) =
      splitFrom .quoted nesting
        (Nat.digitChar (code % 16) :: Nat.digitChar (code / 16) :: '0' :: '0' :: 'u' :: '\\' ::
          current) rest := by
  have high := digitChar_inside (code / 16) (by omega)
  have low := digitChar_inside (code % 16) (by omega)
  calc
    _ = splitFrom .quoted nesting ('0' :: '0' :: 'u' :: '\\' :: current)
          (Nat.digitChar (code / 16) :: Nat.digitChar (code % 16) :: rest) := rfl
    _ = _ := by
      rw [splitFrom_quoted _ _ _ high.1 high.2, splitFrom_quoted _ _ _ low.1 low.2]

/-- Inside a string the scan passes an escaped character and is inside still. -/
theorem splitFrom_escapeChar (char : Char) (nesting current rest : List Char) :
    splitFrom .quoted nesting current (Json.escapeChar char ++ rest) =
      splitFrom .quoted nesting ((Json.escapeChar char).reverse ++ current) rest := by
  unfold Json.escapeChar
  split_ifs with quote backslash backspace formFeed lineFeed carriageReturn tab control
  · rfl
  · rfl
  · rfl
  · rfl
  · rfl
  · rfl
  · rfl
  · exact splitFrom_control nesting current rest control
  · exact splitFrom_quoted nesting current rest backslash quote

/-- The text of a string stays in one piece, whatever is in it. -/
theorem joins_string (text : String) : Joins (Json.stringText text) := by
  intro nesting current rest
  have inside (chars : List Char) (current : List Char) :
      splitFrom .quoted nesting current (chars.flatMap Json.escapeChar ++ '\x22' :: rest) =
        splitFrom .plain nesting ('\x22' :: (chars.flatMap Json.escapeChar).reverse ++ current)
          rest := by
    induction chars generalizing current with
    | nil => rfl
    | cons char chars ih =>
        rw [List.flatMap_cons, List.append_assoc, splitFrom_escapeChar, ih]
        simp
  rw [Json.stringText, List.cons_append, List.cons_append, List.append_assoc,
    List.singleton_append, splitFrom]
  simp [inside]

/-- Pieces with commas between them stay in one piece. -/
theorem joins_commaSeparated {parts : List (List Char)} (joins : ∀ part ∈ parts, Joins part) :
    Joins (Json.commaSeparated parts) := by
  induction parts with
  | nil => exact joins_nil
  | cons part parts ih =>
      rw [List.forall_mem_cons] at joins
      by_cases last : parts = []
      · subst last
        exact joins.1
      · rw [Json.commaSeparated_cons last]
        have comma : Joins [','] := joins_char (by decide)
        exact joins_append joins.1 (joins_append comma (ih joins.2))

/-- An opening bracket is added to the token and to the open ones. -/
theorem splitFrom_opening {char : Char} (opens : isOpening char = true)
    (nesting current rest : List Char) :
    splitFrom .plain nesting current (char :: rest) =
      splitFrom .plain (char :: nesting) (char :: current) rest := by
  have notQuote : char ≠ '\x22' := by
    rintro rfl
    cases opens
  rw [splitFrom]
  simp [notQuote, opens]

/-- A closing bracket closes the last open one, if it is of its kind, and is an
error otherwise. -/
theorem splitFrom_closing {opening closing : Char} (pair : opening? closing = some opening)
    (nesting current rest : List Char) :
    splitFrom .plain nesting current (closing :: rest) =
      if nesting.head? = some opening then
        splitFrom .plain nesting.tail (closing :: current) rest
      else .error (.unbalanced closing) := by
  have notQuote : closing ≠ '\x22' := by
    rintro rfl
    cases pair
  have notOpening : isOpening closing = false := by
    unfold opening? at pair
    split_ifs at pair with bracket brace
    · subst bracket
      rfl
    · subst brace
      rfl
  rw [splitFrom]
  simp [notQuote, notOpening, pair]

theorem isOpening_of_pair {opening closing : Char} (pair : opening? closing = some opening) :
    isOpening opening = true := by
  unfold opening? at pair
  split_ifs at pair <;> cases pair <;> rfl

theorem keeps_bracketed {opening closing : Char} {nesting inner : List Char}
    (pair : opening? closing = some opening) (keeps : Keeps (opening :: nesting) inner) :
    Keeps nesting (opening :: (inner ++ [closing])) := by
  intro current rest
  rw [List.cons_append, List.append_assoc, List.singleton_append,
    splitFrom_opening (isOpening_of_pair pair), keeps, splitFrom_closing pair]
  simp

theorem joins_bracketed {opening closing : Char} {inner : List Char}
    (pair : opening? closing = some opening) (joins : Joins inner) :
    Joins (opening :: (inner ++ [closing])) :=
  fun nesting => keeps_bracketed pair (joins (opening :: nesting))

theorem isWordChar_of_isDigit {char : Char} (digit : char.isDigit = true) :
    isWordChar char = true := by
  have range : 48 ≤ char.toNat ∧ char.toNat ≤ 57 := by
    simpa [Char.isDigit, UInt32.le_iff_toNat_le] using digit
  have notBlank : Text.isBlank char = false := by
    simp only [Text.isBlank, Bool.or_eq_false_iff, Bool.and_eq_false_iff, decide_eq_false_iff_not,
      beq_eq_false_iff_ne]
    omega
  rw [isWordChar, notBlank]
  refine decide_eq_true ⟨?_, ?_, ?_, ?_, ?_⟩ <;> rintro rfl <;> exact absurd digit (by decide)

/-- The text of a readable value stays in one piece. -/
theorem joins_chars {depth : Nat} {json : Json} (readable : Json.Readable depth json) :
    Joins json.chars := by
  induction readable with
  | null => exact joins_word (by decide)
  | bool value => exact joins_word (by cases value <;> decide)
  | @integer _ n above below =>
      have digits (n : Nat) : (Nat.toDigits 10 n).all isWordChar = true := by
        refine List.all_eq_true.mpr fun char member => ?_
        exact isWordChar_of_isDigit (Nat.isDigit_of_mem_toDigits (by decide) (by decide) member)
      rw [Json.chars_integer]
      split
      · exact joins_word (digits _)
      · have sign : Joins ['-'] := joins_char (by decide)
        exact joins_append sign (joins_word (digits _))
  | string text => exact joins_string text
  | array readable joins =>
      rw [Json.chars_array]
      refine joins_bracketed (by decide) (joins_commaSeparated fun part member => ?_)
      obtain ⟨item, inside, rfl⟩ := List.mem_map.mp member
      exact joins item inside
  | object different readable joins =>
      rw [Json.chars_object]
      refine joins_bracketed (by decide) (joins_commaSeparated fun part inside => ?_)
      obtain ⟨member, inMembers, rfl⟩ := List.mem_map.mp inside
      have colon : Joins [':'] := joins_char (by decide)
      exact joins_append (joins_string _) (joins_append colon (joins member inMembers))

theorem not_isBlank_of_isWordChar {char : Char} (word : isWordChar char = true) :
    Text.isBlank char = false := by
  rw [isWordChar, Bool.and_eq_true] at word
  simpa using word.1

end Token

/-! ## Trimming -/

namespace Text

/-- There are characters, and neither the first nor the last is a blank. -/
structure Trimmed (chars : List Char) : Prop where
  first : ∃ char rest, chars = char :: rest ∧ isBlank char = false
  last : ∃ front char, chars = front ++ [char] ∧ isBlank char = false

theorem trimLeft_cons {char : Char} (rest : List Char) (apart : isBlank char = false) :
    trimLeft (char :: rest) = char :: rest := by
  simp [trimLeft, apart]

/-- A trimmed text has nothing to trim. -/
theorem trim_trimmed {chars : List Char} (trimmed : Trimmed chars) : trim chars = chars := by
  obtain ⟨first, rest, starts, firstApart⟩ := trimmed.first
  obtain ⟨front, last, ends, lastApart⟩ := trimmed.last
  have left : trimLeft chars = chars := by
    rw [starts, trimLeft_cons rest firstApart]
  have right : trimLeft chars.reverse = chars.reverse := by
    rw [ends, List.reverse_append, List.reverse_singleton, List.singleton_append,
      trimLeft_cons _ lastApart]
  rw [trim, left, right, List.reverse_reverse]

/-- Blanks around a text. -/
theorem trim_padded {chars : List Char} (trimmed : Trimmed chars) :
    trim (' ' :: chars) = chars ∧ trim (chars ++ [' ']) = chars := by
  have blank : isBlank ' ' = true := by decide
  have same := trim_trimmed trimmed
  obtain ⟨first, rest, starts, firstApart⟩ := trimmed.first
  have kept : trimLeft chars = chars := by
    rw [starts, trimLeft_cons rest firstApart]
  have keptBefore : trimLeft (chars ++ [' ']) = chars ++ [' '] := by
    rw [starts, List.cons_append, trimLeft_cons _ firstApart]
  constructor
  · have dropped : trimLeft (' ' :: chars) = trimLeft chars := List.dropWhile_cons_of_pos blank
    rw [trim, dropped]
    exact same
  · rw [trim, kept] at same
    rw [trim, keptBefore, List.reverse_append, List.reverse_singleton, List.singleton_append,
      trimLeft, List.dropWhile_cons_of_pos blank]
    exact same

/-- A text between two trimmed ones is not trimmed away. -/
theorem trimmed_append {before after : List Char} (left : Trimmed before) (right : Trimmed after)
    (between : List Char) : Trimmed (before ++ between ++ after) where
  first := by
    obtain ⟨char, rest, starts, apart⟩ := left.first
    exact ⟨char, rest ++ between ++ after, by simp [starts], apart⟩
  last := by
    obtain ⟨front, char, ends, apart⟩ := right.last
    exact ⟨before ++ between ++ front, char, by simp [ends], apart⟩

/-- A text without blanks is trimmed. -/
theorem trimmed_word {chars : List Char} (inhabited : chars ≠ [])
    (apart : ∀ char ∈ chars, isBlank char = false) : Trimmed chars where
  first := by
    obtain ⟨char, rest, starts⟩ := List.exists_cons_of_ne_nil inhabited
    exact ⟨char, rest, starts, apart char (starts ▸ List.mem_cons_self)⟩
  last := by
    obtain ⟨front, char, ends⟩ := List.eq_nil_or_concat chars |>.resolve_left inhabited
    rw [List.concat_eq_append] at ends
    exact ⟨front, char, ends, apart char (by simp [ends])⟩

/-- A trimmed word and trimmed pieces behind it make a trimmed line. -/
theorem trimmed_pieces {word : List Char} (pieces : List (List Char)) (start : Trimmed word)
    (trimmed : ∀ piece ∈ pieces, Trimmed piece) :
    Trimmed (word ++ pieces.flatMap fun piece => ' ' :: piece) := by
  induction pieces generalizing word with
  | nil => simpa using start
  | cons piece pieces ih =>
      rw [List.forall_mem_cons] at trimmed
      have longer := ih (trimmed_append start trimmed.1 [' ']) trimmed.2
      simpa using longer

theorem trimmed_between (opening closing : Char) (inner : List Char)
    (openingApart : isBlank opening = false) (closingApart : isBlank closing = false) :
    Trimmed (opening :: inner ++ [closing]) where
  first := ⟨opening, inner ++ [closing], rfl, openingApart⟩
  last := ⟨opening :: inner, closing, rfl, closingApart⟩

/-- The text of a readable value is trimmed. -/
theorem trimmed_chars {depth : Nat} {json : Json} (readable : Json.Readable depth json) :
    Trimmed json.chars := by
  cases readable with
  | null => exact trimmed_between 'n' 'l' ['u', 'l'] (by decide) (by decide)
  | bool value =>
      cases value with
      | true => exact trimmed_between 't' 'e' ['r', 'u'] (by decide) (by decide)
      | false => exact trimmed_between 'f' 'e' ['a', 'l', 's'] (by decide) (by decide)
  | @integer _ n above below =>
      have digits (n : Nat) : ∀ char ∈ Nat.toDigits 10 n, isBlank char = false := by
        intro char member
        have digit := Nat.isDigit_of_mem_toDigits (by decide) (by decide) member
        exact Token.not_isBlank_of_isWordChar (Token.isWordChar_of_isDigit digit)
      rw [Json.chars_integer]
      split
      · exact trimmed_word Nat.toDigits_ne_nil (digits _)
      · refine trimmed_word (List.cons_ne_nil _ _) ?_
        rw [List.forall_mem_cons]
        exact ⟨by decide, digits _⟩
  | string text => exact trimmed_between _ _ _ (by decide) (by decide)
  | array readable => exact trimmed_between _ _ _ (by decide) (by decide)
  | object different readable => exact trimmed_between _ _ _ (by decide) (by decide)

end Text

/-! ## Lines -/

namespace Token

/-- Texts that stay in one piece, each after a blank, become one token each. -/
theorem splitFrom_pieces (pieces : List (List Char)) (current : List Char)
    (joins : ∀ piece ∈ pieces, Joins piece)
    (inhabited : ∀ piece ∈ pieces, piece ≠ [])
    (started : current ≠ []) :
    splitFrom .plain [] current (pieces.flatMap fun piece => ' ' :: piece) =
      .ok (String.ofList current.reverse :: pieces.map String.ofList) := by
  induction pieces generalizing current with
  | nil =>
      rw [List.flatMap_nil, splitFrom]
      simp [finished, started]
  | cons piece pieces ih =>
      rw [List.forall_mem_cons] at joins inhabited
      have later :=
        ih piece.reverse joins.2 inhabited.2 (by simpa using inhabited.1)
      have blank : Text.isBlank ' ' = true := by decide
      rw [List.flatMap_cons, List.cons_append, splitFrom]
      simp only [Char.reduceEq, if_false, isOpening, opening?, decide_false, Bool.or_self,
        Bool.false_eq_true, blank, List.isEmpty_nil, Bool.and_self, if_true]
      rw [joins.1, List.append_nil, later, List.reverse_reverse]
      simp [finished, started]

end Token

namespace Literal

variable [KeyHash]

/-- The printed text of a plain value is read as that value. -/
theorem parse_jsonText {value : Value}
    (plain : value.isPlainWithoutFloats = true)
    (shallow : value.depth ≤ Json.maxDepth) :
    ∃ same, parse value.jsonText = .value same ∧ Value.Same same value := by
  have readable := Value.readable_toJson plain shallow
  refine ⟨.ofJson value.toJson, ?_, ?_⟩
  · obtain ⟨first, more, text, starts⟩ := readable.chars_cons
    have characters : value.jsonText.toList = first :: more := by
      rw [Value.jsonText, Json.toText, String.toList_ofList, text]
    rw [parse, characters]
    split
    · next same =>
      cases same
      exact absurd starts (by decide)
    · rw [Value.jsonText, Json.parse?_toText readable]
  · have noFloats : ∀ x : Binary64, (fun _ : Binary64 => false) x = true → x.isFinite = true := by
      intro x allowed
      cases allowed
    exact Value.same_ofJson_toJson noFloats value plain

/-- The printed texts of plain values are read as these values. -/
theorem parse_jsonTexts (args : List Value)
    (plain : ∀ arg ∈ args, arg.isPlainWithoutFloats = true ∧ arg.depth ≤ Json.maxDepth) :
    ∃ same : List Value, (args.map Value.jsonText).map parse = same.map value ∧
      List.Forall₂ Value.Same same args := by
  induction args with
  | nil => exact ⟨[], rfl, .nil⟩
  | cons arg args ih =>
      rw [List.forall_mem_cons] at plain
      obtain ⟨first, read, sameFirst⟩ := parse_jsonText plain.1.1 plain.1.2
      obtain ⟨others, readOthers, sameOthers⟩ := ih plain.2
      refine ⟨first :: others, ?_, .cons sameFirst sameOthers⟩
      rw [List.map_cons, List.map_cons, read, readOthers, List.map_cons]

end Literal

namespace Line

/-- Words that name a function: not empty, not the word of a binding, not
starting as a command, without blanks, quotes and brackets. -/
def isCallName (name : String) : Bool :=
  name.toList != [] && name.toList != ['l', 'e', 't'] && name.toList.head? != some ':' &&
    name.toList.all Token.isWordChar

/-- Words that name a variable: not empty, without blanks and equals signs. -/
def isVariableName (name : String) : Bool :=
  name.toList != [] && name.toList.all fun char => !Text.isBlank char && char != '='

/-- A call as it is written: the name and the JSON texts of the arguments, with
single blanks between them. -/
def callText (name : String) (args : List Value) : String :=
  args.foldl (fun line arg => line ++ " " ++ arg.jsonText) name

/-- A binding as it is written. -/
def bindingText (name : String) (value : Value) : String :=
  "let " ++ name ++ " = " ++ value.jsonText

theorem toList_callText (name : String) (args : List Value) :
    (callText name args).toList =
      name.toList ++ (args.map fun arg => arg.toJson.chars).flatMap fun piece => ' ' :: piece := by
  induction args generalizing name with
  | nil => simp [callText]
  | cons arg args ih =>
      have shifted :
          callText name (arg :: args) = callText (name ++ " " ++ arg.jsonText) args := rfl
      rw [shifted, ih]
      simp [Value.jsonText, Json.toText]

/-- A line that starts with a word without blanks is a binding only if that word
is the word of one. -/
theorem not_binding {name rest : List Char}
    (word : name.all Token.isWordChar = true)
    (other : name ≠ ['l', 'e', 't'])
    (ends : ∀ char ∈ rest.head?, char = ' ') :
    ¬ bindingWord.isPrefixOf (name ++ rest) = true := by
  intro starts
  obtain ⟨more, same⟩ := List.isPrefixOf_iff_prefix.mp starts
  have whole : ∀ char ∈ name, (!Text.isBlank char) = true := by
    intro char member
    rw [Token.not_isBlank_of_isWordChar (List.all_eq_true.mp word char member)]
    rfl
  have stops : rest.takeWhile (fun char => !Text.isBlank char) = [] := by
    cases rest with
    | nil => rfl
    | cons char rest =>
        have blank : char = ' ' := ends char rfl
        subst blank
        rfl
  -- both sides are the first word of the line
  have firstWord := congrArg (List.takeWhile fun char => !Text.isBlank char) same
  rw [List.takeWhile_append_of_pos whole, stops, List.append_nil] at firstWord
  exact other firstWord.symm

section

variable [KeyHash]

/-- A line that is neither empty nor a command nor a binding is split. -/
theorem parse_of_tokens {line : String} {first : Char} {rest : List Char}
    {name : String} {args : List String}
    (text : line.toList = first :: rest)
    (trimmed : Text.Trimmed line.toList)
    (notCommand : first ≠ ':')
    (notBinding : ¬ bindingWord.isPrefixOf line.toList = true)
    (tokens : Token.split line = .ok (name :: args)) :
    parse line = .ok (.call name (args.map Literal.parse)) := by
  rw [parse, Text.trim_trimmed trimmed, String.ofList_toList, if_neg notBinding, tokens, text]
  simp only [notCommand, if_false]
  rfl

/-- A printed call is read as that call. -/
theorem parse_callText {name : String} {args : List Value}
    (named : isCallName name = true)
    (plain : ∀ arg ∈ args, arg.isPlainWithoutFloats = true ∧ arg.depth ≤ Json.maxDepth) :
    ∃ same : List Value, parse (callText name args) = .ok (.call name (same.map .value)) ∧
      List.Forall₂ Value.Same same args := by
  simp only [isCallName, Bool.and_eq_true, bne_iff_ne] at named
  obtain ⟨⟨⟨inhabited, notLet⟩, notColon⟩, word⟩ := named
  obtain ⟨same, read, matching⟩ := Literal.parse_jsonTexts args plain
  refine ⟨same, ?_, matching⟩
  have readable : ∀ arg ∈ args, Json.Readable Json.maxDepth arg.toJson := fun arg member =>
    Value.readable_toJson (plain arg member).1 (plain arg member).2
  have pieces (property : List Char → Prop)
      (holds : ∀ json, Json.Readable Json.maxDepth json → property json.chars) :
      ∀ piece ∈ args.map fun arg => arg.toJson.chars, property piece := by
    intro piece member
    obtain ⟨arg, inside, rfl⟩ := List.mem_map.mp member
    exact holds arg.toJson (readable arg inside)
  have text := toList_callText name args
  obtain ⟨first, rest, starts⟩ := List.exists_cons_of_ne_nil inhabited
  have trimmed : Text.Trimmed (callText name args).toList := by
    rw [text]
    refine Text.trimmed_pieces _ (Text.trimmed_word inhabited fun char member => ?_) ?_
    · exact Token.not_isBlank_of_isWordChar (List.all_eq_true.mp word char member)
    · exact pieces _ fun json readable => Text.trimmed_chars readable
  have tokens : Token.split (callText name args) = .ok (name :: args.map Value.jsonText) := by
    rw [Token.split, text, Token.joins_word word, List.append_nil, Token.splitFrom_pieces]
    · simp [Value.jsonText, Json.toText, Function.comp_def]
    · exact pieces _ fun json readable => Token.joins_chars readable
    · refine pieces _ fun json readable => ?_
      obtain ⟨first, more, characters, -⟩ := readable.chars_cons
      simp [characters]
    · simpa using inhabited
  have notBinding : ¬ bindingWord.isPrefixOf (callText name args).toList = true := by
    rw [text]
    refine not_binding word notLet ?_
    cases args <;> simp
  have line := parse_of_tokens (by rw [text, starts, List.cons_append]) trimmed ?_ notBinding tokens
  · rw [line, read]
  · intro colon
    exact notColon (by rw [starts, colon]; rfl)

omit [KeyHash] in
theorem bindingWord_eq : bindingWord = ['l', 'e', 't', ' '] := by
  simp [bindingWord]

/-- A binding with a blank on each side of the equals sign. -/
theorem parseBinding_spaced {name literal : List Char}
    (nameTrimmed : Text.Trimmed name)
    (word : ∀ char ∈ name, Text.isBlank char = false ∧ char ≠ '=')
    (literalTrimmed : Text.Trimmed literal) :
    parseBinding (name ++ [' '] ++ '=' :: ' ' :: literal) =
      .ok (.binding (String.ofList name) (.parse (String.ofList literal))) := by
  have before : ∀ char ∈ name ++ [' '], (char != '=') = true := by
    intro char member
    rw [bne_iff_ne]
    rcases List.mem_append.mp member with inside | blank
    · exact (word char inside).2
    · rw [List.mem_singleton.mp blank]
      decide
  have nameInhabited : name.isEmpty = false := by
    obtain ⟨char, rest, starts, -⟩ := nameTrimmed.first
    rw [starts, List.isEmpty_cons]
  have literalInhabited : literal.isEmpty = false := by
    obtain ⟨char, rest, starts, -⟩ := literalTrimmed.first
    rw [starts, List.isEmpty_cons]
  have noBlank : name.any Text.isBlank = false := by
    simpa using fun char member => (word char member).1
  have equals : ('=' != '=') = false := by decide
  rw [parseBinding, List.takeWhile_append_of_pos before, List.dropWhile_append_of_pos before]
  simp only [List.takeWhile_cons, List.dropWhile_cons, equals, Bool.false_eq_true, if_false,
    List.append_nil, (Text.trim_padded nameTrimmed).2, (Text.trim_padded literalTrimmed).1,
    nameInhabited, noBlank, literalInhabited, Bool.or_self]

/-- A printed binding is read as that binding. -/
theorem parse_bindingText {name : String} {value : Value}
    (named : isVariableName name = true)
    (plain : value.isPlainWithoutFloats = true)
    (shallow : value.depth ≤ Json.maxDepth) :
    ∃ same, parse (bindingText name value) = .ok (.binding name (.value same)) ∧
      Value.Same same value := by
  simp only [isVariableName, Bool.and_eq_true, bne_iff_ne, List.all_eq_true, Bool.not_eq_true']
    at named
  obtain ⟨inhabited, word⟩ := named
  obtain ⟨same, read, matching⟩ := Literal.parse_jsonText plain shallow
  refine ⟨same, ?_, matching⟩
  have readable := Value.readable_toJson plain shallow
  have nameTrimmed := Text.trimmed_word inhabited fun char member => (word char member).1
  have valueTrimmed := Text.trimmed_chars readable
  have text : (bindingText name value).toList =
      bindingWord ++ (name.toList ++ [' '] ++ '=' :: ' ' :: value.toJson.chars) := by
    simp [bindingText, bindingWord, Value.jsonText, Json.toText]
  have trimmed : Text.Trimmed (bindingText name value).toList := by
    have start := Text.trimmed_between 'l' 't' ['e'] (by decide) (by decide)
    have whole := Text.trimmed_append start valueTrimmed (' ' :: name.toList ++ [' ', '=', ' '])
    rw [text, bindingWord_eq]
    simpa using whole
  have isBinding : bindingWord.isPrefixOf (bindingText name value).toList = true := by
    rw [text]
    exact List.isPrefixOf_iff_prefix.mpr (List.prefix_append _ _)
  have dropped : (bindingText name value).toList.drop bindingWord.length =
      name.toList ++ [' '] ++ '=' :: ' ' :: value.toJson.chars := by
    rw [text, List.drop_left]
  have literal : String.ofList value.toJson.chars = value.jsonText := rfl
  rw [parse, Text.trim_trimmed trimmed, if_pos isBinding, dropped,
    parseBinding_spaced nameTrimmed word valueTrimmed, String.ofList_toList, String.ofList_toList,
    literal, read, text, bindingWord_eq]
  rfl

/-- Plain values without floats, printed as JSON, are read back by the shell: as
the arguments of a call and as the value of a binding. -/
theorem printed_values_are_read_back :
    (∀ (name : String) (args : List Value), isCallName name = true →
      (∀ arg ∈ args, arg.isPlainWithoutFloats = true ∧ arg.depth ≤ 127) →
      ∃ same : List Value, parse (callText name args) = .ok (.call name (same.map .value)) ∧
        List.Forall₂ Value.Same same args) ∧
    ∀ (name : String) (value : Value), isVariableName name = true →
      value.isPlainWithoutFloats = true → value.depth ≤ 127 →
      ∃ same, parse (bindingText name value) = .ok (.binding name (.value same)) ∧
        Value.Same same value := by
  constructor
  · intro name args named plain
    exact parse_callText named plain
  · intro name value named plain shallow
    exact parse_bindingText named plain shallow

end

/-- A string with a quote after a backslash, an equals sign, a closing bracket
and blanks, inside a keyed array. -/
def trickySample : Value :=
  .array (.ofPairs
    [("a ]=", .ofText "\\\" = \x7d \x01"), ("", .ofList [.int Int64.minValue, .ofList []])])

/-- Blanks, quotes and brackets within strings and keys, and names that look like
the start of something else. -/
theorem trickySample_is_read_back :
    trickySample.isPlainWithoutFloats = true ∧ trickySample.depth ≤ 127 ∧
      isCallName "(f$" = true ∧ isVariableName "\"[" = true ∧
      (∃ same : List Value,
        parse (callText "(f$" [trickySample, .void]) = .ok (.call "(f$" (same.map .value)) ∧
          List.Forall₂ Value.Same same [trickySample, .void]) ∧
      ∃ same, parse (bindingText "\"[" trickySample) = .ok (.binding "\"[" (.value same)) ∧
        Value.Same same trickySample := by
  have plain : trickySample.isPlainWithoutFloats = true := by decide +kernel
  have shallow : trickySample.depth ≤ 127 := by decide +kernel
  have called : isCallName "(f$" = true := by decide +kernel
  have named : isVariableName "\"[" = true := by decide +kernel
  have args : ∀ arg ∈ [trickySample, Value.void],
      arg.isPlainWithoutFloats = true ∧ arg.depth ≤ 127 := by
    simp only [List.forall_mem_cons, List.not_mem_nil, false_implies, implies_true, and_true]
    exact ⟨⟨plain, shallow⟩, by decide⟩
  exact ⟨plain, shallow, called, named, printed_values_are_read_back.1 _ _ called args,
    printed_values_are_read_back.2 _ _ named plain shallow⟩

end Line
end ScriptCore
