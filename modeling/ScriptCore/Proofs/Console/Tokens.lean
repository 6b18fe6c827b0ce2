import ScriptCore.Proofs.Console.PrintedArguments

/-!
# The tokens of a line

Which lines can be split, said by a grammar and without the scan. A token is a
text whose strings are closed, whose brackets nest and whose blanks are inside of
strings or brackets. A line is laid out when it consists of tokens with blanks
around them, and splitting gives the tokens of the layout. Any other line has a
first defect: a string that does not end, a closing bracket that does not match
the innermost open one, or a bracket open at the end of the line. The defect
decides the error.

That a line is laid out or has a defect is shown on the grammar alone, one
character added at the end at a time. What the scan does in each case is a second
matter, and since it gives one answer, each answer then characterises its case.
-/

namespace ScriptCore
namespace Token

/-! ## Strings, nesting and tokens -/

/-- Characters between the quotes of a string. A backslash takes the character
after it along, whatever that is. -/
inductive StringBody : List Char → Prop
  | nil : StringBody []
  | char {char : Char} {body : List Char} (notQuote : char ≠ '\x22')
      (notBackslash : char ≠ '\\') (later : StringBody body) : StringBody (char :: body)
  | escape (char : Char) {body : List Char} (later : StringBody body) :
      StringBody ('\\' :: char :: body)

theorem StringBody.append {first second : List Char} (bodyFirst : StringBody first)
    (bodySecond : StringBody second) : StringBody (first ++ second) := by
  induction bodyFirst with
  | nil => exact bodySecond
  | char notQuote notBackslash _ ih =>
      exact .char notQuote notBackslash ih
  | escape char _ ih => exact .escape char ih

/-- The text after an opening quote has no closing one: it ends inside of the
string, perhaps right after a backslash. -/
def Unclosed (body : List Char) : Prop :=
  StringBody body ∨ ∃ start, StringBody start ∧ body = start ++ ['\\']

/-- Texts whose strings are closed and whose brackets nest. Blanks may stand in
brackets, and outside of them if `blanks` holds. -/
inductive Nested : Bool → List Char → Prop
  | nil {blanks : Bool} : Nested blanks []
  | word {blanks : Bool} {char : Char} {rest : List Char} (isWord : isWordChar char = true)
      (later : Nested blanks rest) : Nested blanks (char :: rest)
  | blank {blanks : Bool} {char : Char} {rest : List Char} (allowed : blanks = true)
      (isBlank : Text.isBlank char = true) (later : Nested blanks rest) :
      Nested blanks (char :: rest)
  | string {blanks : Bool} {body rest : List Char} (inside : StringBody body)
      (later : Nested blanks rest) : Nested blanks ('\x22' :: (body ++ '\x22' :: rest))
  | bracketed {blanks : Bool} {opening closing : Char} {inner rest : List Char}
      (pair : opening? closing = some opening) (inside : Nested true inner)
      (later : Nested blanks rest) : Nested blanks (opening :: (inner ++ closing :: rest))

/-- Two balanced texts make one. -/
theorem Nested.append {blanks : Bool} {first second : List Char}
    (nestedFirst : Nested blanks first) (nestedSecond : Nested blanks second) :
    Nested blanks (first ++ second) := by
  induction nestedFirst with
  | nil => exact nestedSecond
  | word isWord _ ih => exact .word isWord (ih nestedSecond)
  | blank allowed isBlank _ ih =>
      exact .blank allowed isBlank (ih nestedSecond)
  | string inside _ ih =>
      rw [List.cons_append, List.append_assoc, List.cons_append]
      exact .string inside (ih nestedSecond)
  | bracketed pair inside _ _ ih =>
      rw [List.cons_append, List.append_assoc, List.cons_append]
      exact .bracketed pair inside (ih nestedSecond)

/-- A token has characters, and its blanks are in strings or brackets. -/
structure IsToken (chars : List Char) : Prop where
  inhabited : chars ≠ []
  nested : Nested false chars

/-! ## Lines of tokens -/

/-- A token on a line, with the blanks before it. -/
structure Word where
  blanks : List Char
  token : List Char
  onlyBlanks : blanks.all Text.isBlank = true
  isToken : IsToken token

def Word.chars (word : Word) : List Char :=
  word.blanks ++ word.token

/-- A line of tokens. Blanks may stand before the first token and after the last
one, and at least one blank stands between two tokens. -/
structure Layout where
  words : List Word
  trailing : List Char
  onlyBlanks : trailing.all Text.isBlank = true
  separated : ∀ word ∈ words.tail, word.blanks ≠ []

namespace Layout

/-- The line that is laid out. -/
def chars (layout : Layout) : List Char :=
  layout.words.flatMap Word.chars ++ layout.trailing

/-- The tokens on the line. -/
def tokens (layout : Layout) : List String :=
  layout.words.map fun word => String.ofList word.token

/-- A blank in front of a layout makes another. -/
theorem exists_cons_blank (layout : Layout) {char : Char} (isBlank : Text.isBlank char = true) :
    ∃ extended : Layout, extended.chars = char :: layout.chars := by
  obtain ⟨words, trailing, onlyBlanks, separated⟩ := layout
  cases words with
  | nil =>
      exact ⟨⟨[], char :: trailing, by simp [isBlank, onlyBlanks], separated⟩, rfl⟩
  | cons word words =>
      have blanks : (char :: word.blanks).all Text.isBlank = true := by
        simp [isBlank, word.onlyBlanks]
      exact ⟨⟨⟨char :: word.blanks, word.token, blanks, word.isToken⟩ :: words, trailing,
        onlyBlanks, separated⟩, rfl⟩

/-- A token in front of a line is a word of its own if a blank or nothing follows,
and otherwise the start of the first word. -/
theorem exists_append_token (layout : Layout) {token : List Char} (isToken : IsToken token) :
    ∃ extended : Layout, extended.chars = token ++ layout.chars := by
  obtain ⟨words, trailing, onlyBlanks, separated⟩ := layout
  have alone (words : List Word) (separated : ∀ word ∈ words, word.blanks ≠ []) :
      ∃ extended : Layout, extended.chars = token ++ (words.flatMap Word.chars ++ trailing) :=
    ⟨⟨⟨[], token, rfl, isToken⟩ :: words, trailing, onlyBlanks, separated⟩,
      by simp [chars, Word.chars]⟩
  cases words with
  | nil => exact alone [] separated
  | cons word words =>
      by_cases glued : word.blanks = []
      · have joined : IsToken (token ++ word.token) :=
          ⟨by simp [isToken.inhabited], isToken.nested.append word.isToken.nested⟩
        exact ⟨⟨⟨[], token ++ word.token, rfl, joined⟩ :: words, trailing, onlyBlanks, separated⟩,
          by simp [chars, Word.chars, glued]⟩
      · exact alone (word :: words) (List.forall_mem_cons.mpr ⟨glued, separated⟩)

end Layout

/-- A text whose strings are closed and whose brackets nest is a line of tokens. -/
theorem Nested.exists_layout {blanks : Bool} {text : List Char} (nested : Nested blanks text) :
    ∃ layout : Layout, layout.chars = text := by
  induction nested with
  | nil => exact ⟨⟨[], [], rfl, by simp⟩, rfl⟩
  | word isWord _ ih =>
      obtain ⟨layout, rfl⟩ := ih
      exact layout.exists_append_token ⟨by simp, .word isWord .nil⟩
  | blank _ isBlank _ ih =>
      obtain ⟨layout, rfl⟩ := ih
      exact layout.exists_cons_blank isBlank
  | string inside _ ih =>
      obtain ⟨layout, rfl⟩ := ih
      obtain ⟨extended, same⟩ := layout.exists_append_token ⟨by simp, .string inside .nil⟩
      exact ⟨extended, by simpa using same⟩
  | bracketed pair inside _ _ ih =>
      obtain ⟨layout, rfl⟩ := ih
      obtain ⟨extended, same⟩ :=
        layout.exists_append_token ⟨by simp, .bracketed pair inside .nil⟩
      exact ⟨extended, by simpa using same⟩

/-! ## Defects -/

/-- A text without a defect so far, outside of strings, and the brackets open at
its end, innermost first. -/
inductive Open : List Char → List Char → Prop
  | closed {text : List Char} (nested : Nested true text) : Open [] text
  | bracket {nesting before inner : List Char} {opening : Char} (earlier : Open nesting before)
      (opens : isOpening opening = true) (nested : Nested true inner) :
      Open (opening :: nesting) (before ++ opening :: inner)

theorem Open.append {nesting before text : List Char} (earlier : Open nesting before)
    (nested : Nested true text) : Open nesting (before ++ text) := by
  cases earlier with
  | closed earlier => exact .closed (earlier.append nested)
  | bracket earlier opens inner =>
      rw [List.append_assoc, List.cons_append]
      exact .bracket earlier opens (inner.append nested)

/-- A string starts that does not end. -/
def EndsInString (line : List Char) : Prop :=
  ∃ nesting before body, line = before ++ '\x22' :: body ∧ Open nesting before ∧ Unclosed body

/-- The closing bracket stands where another one, or none, is due. -/
def Mismatches (closing : Char) (line : List Char) : Prop :=
  ∃ nesting before rest opening, line = before ++ closing :: rest ∧ Open nesting before ∧
    opening? closing = some opening ∧ nesting.head? ≠ some opening

/-- One more character leaves the line in its string, or ends the string. -/
theorem endsInString_or_open_append {line : List Char} (ends : EndsInString line) (char : Char) :
    EndsInString (line ++ [char]) ∨ ∃ nesting, Open nesting (line ++ [char]) := by
  obtain ⟨nesting, before, body, rfl, earlier, unclosed⟩ := ends
  rw [List.append_assoc, List.cons_append]
  rcases unclosed with inside | ⟨start, inside, rfl⟩
  · by_cases quote : char = '\x22'
    · subst quote
      exact .inr ⟨nesting, earlier.append (.string inside .nil)⟩
    · by_cases backslash : char = '\\'
      · subst backslash
        exact .inl ⟨nesting, before, _, rfl, earlier, .inr ⟨body, inside, rfl⟩⟩
      · have longer := inside.append (.char quote backslash .nil)
        exact .inl ⟨nesting, before, _, rfl, earlier, .inl longer⟩
  · have longer := inside.append (.escape char .nil)
    exact .inl ⟨nesting, before, _, rfl, earlier, .inl (by simpa using longer)⟩

/-- One more character leaves the line balanced or open, begins a string or closes
the wrong bracket. -/
theorem open_append {nesting line : List Char} (earlier : Open nesting line) (char : Char) :
    (∃ nesting, Open nesting (line ++ [char])) ∨ EndsInString (line ++ [char]) ∨
      Mismatches char (line ++ [char]) := by
  by_cases quote : char = '\x22'
  · subst quote
    exact .inr (.inl ⟨nesting, line, [], rfl, earlier, .inl .nil⟩)
  by_cases opens : isOpening char = true
  · exact .inl ⟨char :: nesting, .bracket earlier opens .nil⟩
  cases closes : opening? char with
  | some opening =>
      by_cases due : nesting.head? = some opening
      · cases earlier with
        | closed => cases due
        | bracket earlier opens inner =>
            cases due
            have whole := earlier.append (.bracketed closes inner .nil)
            exact .inl ⟨_, by simpa using whole⟩
      · exact .inr (.inr ⟨nesting, line, [], opening, rfl, earlier, closes, due⟩)
  | none =>
      refine .inl ⟨nesting, earlier.append ?_⟩
      by_cases isBlank : Text.isBlank char = true
      · exact .blank rfl isBlank .nil
      · refine .word ?_ .nil
        simp only [isOpening, opening?] at opens closes
        grind [isWordChar]

/-- Every line is without a defect up to its end, or it has one. -/
theorem open_or_defect (line : List Char) :
    (∃ nesting, Open nesting line) ∨ EndsInString line ∨ ∃ closing, Mismatches closing line := by
  induction line using List.reverseRecOn with
  | nil => exact .inl ⟨[], .closed .nil⟩
  | append_singleton line char ih =>
      rcases ih with
        ⟨nesting, earlier⟩ | ends | ⟨closing, nesting, before, rest, opening, rfl, mismatch⟩
      · rcases open_append earlier char with isOpen | ends | mismatch
        · exact .inl isOpen
        · exact .inr (.inl ends)
        · exact .inr (.inr ⟨char, mismatch⟩)
      · rcases endsInString_or_open_append ends char with ends | isOpen
        · exact .inr (.inl ends)
        · exact .inl isOpen
      · -- a mismatched bracket stays the first defect
        exact .inr (.inr ⟨closing, nesting, before, rest ++ [char], opening, by simp, mismatch⟩)

/-! ## What the scan does -/

/-- A text within a string is added to the token. -/
theorem splitFrom_stringBody {body : List Char} (inside : StringBody body)
    (nesting current rest : List Char) :
    splitFrom .quoted nesting current (body ++ rest) =
      splitFrom .quoted nesting (body.reverse ++ current) rest := by
  induction inside generalizing current with
  | nil => rfl
  | char notQuote notBackslash _ ih =>
      rw [List.cons_append, splitFrom_quoted _ _ _ notBackslash notQuote, ih]
      simp
  | @escape char body _ ih =>
      calc
        _ = splitFrom .quoted nesting (char :: '\\' :: current) (body ++ rest) := rfl
        _ = _ := by
          rw [ih]
          simp

/-- A string without an end is an error. -/
theorem splitFrom_unclosed {body : List Char} (unclosed : Unclosed body)
    (nesting current : List Char) :
    splitFrom .quoted nesting current body = .error .unterminatedString := by
  rcases unclosed with inside | ⟨start, inside, rfl⟩
  · rw [← List.append_nil body, splitFrom_stringBody inside]
    rfl
  · rw [splitFrom_stringBody inside]
    rfl

/-- A blank ends the token outside of brackets and is part of it within them. -/
theorem splitFrom_blank {char : Char} (isBlank : Text.isBlank char = true)
    (nesting current rest : List Char) :
    splitFrom .plain nesting current (char :: rest) =
      if nesting = [] then (splitFrom .plain [] [] rest).map (finished current ++ ·)
      else splitFrom .plain nesting (char :: current) rest := by
  have notQuote : char ≠ '\x22' := by
    rintro rfl
    cases isBlank
  have notOpening : isOpening char = false := by
    rw [isOpening, Bool.or_eq_false_iff, decide_eq_false_iff_not, decide_eq_false_iff_not]
    constructor <;> rintro rfl <;> cases isBlank
  have notClosing : opening? char = none := by
    rw [opening?, if_neg, if_neg] <;> rintro rfl <;> cases isBlank
  rw [splitFrom]
  simp only [notQuote, notOpening, notClosing, isBlank]
  cases nesting with
  | nil => cases splitFrom .plain [] [] rest <;> rfl
  | cons bracket nesting => rfl

/-- A whole string is added to the token. -/
theorem keeps_string {body : List Char} (inside : StringBody body) (nesting : List Char) :
    Keeps nesting ('\x22' :: (body ++ ['\x22'])) := by
  intro current rest
  calc
    _ = splitFrom .quoted nesting ('\x22' :: current) (body ++ '\x22' :: rest) := by
      rw [List.cons_append, List.append_assoc]
      rfl
    _ = splitFrom .plain nesting ('\x22' :: (body.reverse ++ '\x22' :: current)) rest := by
      rw [splitFrom_stringBody inside]
      rfl
    _ = _ := by simp

/-- Blanks outside of brackets are no part of a token, so a text that has some is
kept only inside of an open bracket. -/
theorem Nested.keeps {blanks : Bool} {text : List Char} (nested : Nested blanks text)
    {nesting : List Char} (surrounded : blanks = true → nesting ≠ []) : Keeps nesting text := by
  induction nested generalizing nesting with
  | nil =>
      intro current rest
      rfl
  | word isWord _ ih =>
      exact Keeps.append (joins_char isWord nesting) (ih surrounded)
  | @blank _ char rest allowed isBlank _ ih =>
      have first : Keeps nesting [char] := by
        intro current rest
        rw [List.singleton_append, splitFrom_blank isBlank, if_neg (surrounded allowed)]
        rfl
      exact first.append (ih surrounded)
  | string inside _ ih =>
      simpa using (keeps_string inside nesting).append (ih surrounded)
  | bracketed pair _ _ inner ih =>
      have first := keeps_bracketed pair (inner fun _ => List.cons_ne_nil _ nesting)
      simpa using first.append (ih surrounded)

/-- Past the text the scan stands outside of strings with the brackets `after`
open. By then it may have found tokens, and it may be collecting another one. -/
def Passes (before after text : List Char) : Prop :=
  ∀ current rest, ∃ tokens next, splitFrom .plain before current (text ++ rest) =
    (splitFrom .plain after next rest).map (tokens ++ ·)

theorem Keeps.passes {nesting text : List Char} (keeps : Keeps nesting text) :
    Passes nesting nesting text := by
  intro current rest
  refine ⟨[], text.reverse ++ current, ?_⟩
  rw [keeps]
  cases splitFrom .plain nesting (text.reverse ++ current) rest <;> rfl

theorem Passes.append {before between after first second : List Char}
    (passesFirst : Passes before between first) (passesSecond : Passes between after second) :
    Passes before after (first ++ second) := by
  intro current rest
  obtain ⟨tokens, next, reached⟩ := passesFirst current (second ++ rest)
  obtain ⟨moreTokens, last, reachedNext⟩ := passesSecond next rest
  refine ⟨tokens ++ moreTokens, last, ?_⟩
  rw [List.append_assoc, reached, reachedNext]
  cases splitFrom .plain after last rest with
  | error error => rfl
  | ok others => simp [Except.map]

/-- A balanced text passes and leaves the open brackets as they were. -/
theorem Nested.passes {blanks : Bool} {text : List Char} (nested : Nested blanks text)
    (nesting : List Char) : Passes nesting nesting text := by
  induction nested with
  | nil => exact Keeps.passes fun _ _ => rfl
  | word isWord _ ih =>
      have first : Keeps nesting [_] := joins_char isWord nesting
      exact first.passes.append ih
  | @blank _ char rest _ isBlank _ ih =>
      have first : Passes nesting nesting [char] := by
        intro current rest
        rw [List.singleton_append, splitFrom_blank isBlank]
        split_ifs with outside
        · subst outside
          exact ⟨finished current, [], rfl⟩
        · exact ⟨[], char :: current, by cases splitFrom .plain nesting _ rest <;> rfl⟩
      exact first.append ih
  | string inside _ ih =>
      simpa using (keeps_string inside nesting).passes.append ih
  | @bracketed _ opening _ _ _ pair inside _ _ ih =>
      have inner := inside.keeps fun _ => List.cons_ne_nil opening nesting
      simpa using (keeps_bracketed pair inner).passes.append ih

theorem Open.passes {nesting text : List Char} (isOpen : Open nesting text) :
    Passes [] nesting text := by
  induction isOpen with
  | closed nested => exact nested.passes []
  | @bracket nesting _ _ opening _ opens nested ih =>
      have step : Passes nesting (opening :: nesting) [opening] := by
        intro current rest
        refine ⟨[], opening :: current, ?_⟩
        rw [List.singleton_append, splitFrom_opening opens]
        cases splitFrom .plain (opening :: nesting) (opening :: current) rest <;> rfl
      exact ih.append (step.append (nested.passes (opening :: nesting)))

/-! ## Defects decide the error -/

/-- An error does not depend on the token at hand, so it is the error of the whole
line. -/
theorem Open.split_error {nesting before rest : List Char} {error : LineError}
    (isOpen : Open nesting before)
    (fails : ∀ current, splitFrom .plain nesting current rest = .error error) :
    splitFrom .plain [] [] (before ++ rest) = .error error := by
  obtain ⟨tokens, next, reached⟩ := isOpen.passes [] rest
  rw [reached, fails]
  rfl

theorem split_of_endsInString {line : String} (ends : EndsInString line.toList) :
    split line = .error .unterminatedString := by
  obtain ⟨nesting, before, body, whole, isOpen, unclosed⟩ := ends
  rw [split, whole]
  exact isOpen.split_error fun current => splitFrom_unclosed unclosed nesting ('\x22' :: current)

theorem split_of_mismatches {line : String} {closing : Char}
    (mismatch : Mismatches closing line.toList) :
    split line = .error (.unbalanced closing) := by
  obtain ⟨nesting, before, rest, opening, whole, isOpen, pair, notDue⟩ := mismatch
  rw [split, whole]
  refine isOpen.split_error fun current => ?_
  rw [splitFrom_closing pair, if_neg notDue]

theorem split_of_open {line : String} {opening : Char} {nesting : List Char}
    (isOpen : Open (opening :: nesting) line.toList) :
    split line = .error (.unbalanced opening) := by
  rw [split, ← List.append_nil line.toList]
  exact isOpen.split_error fun current => rfl

/-! ## Layouts decide the tokens -/

/-- Blanks between tokens are skipped. -/
theorem splitFrom_blanks {blanks : List Char} (onlyBlanks : blanks.all Text.isBlank = true)
    (rest : List Char) :
    splitFrom .plain [] [] (blanks ++ rest) = splitFrom .plain [] [] rest := by
  induction blanks with
  | nil => rfl
  | cons char blanks ih =>
      rw [List.all_cons, Bool.and_eq_true] at onlyBlanks
      rw [List.cons_append, splitFrom_blank onlyBlanks.1, if_pos rfl,
        ih onlyBlanks.2]
      cases splitFrom .plain [] [] rest <;> rfl

/-- Where a blank or nothing follows, the token at hand is finished. -/
theorem splitFrom_finished {rest : List Char}
    (ends : ∀ char ∈ rest.head?, Text.isBlank char = true) (current : List Char) :
    splitFrom .plain [] current rest =
      (splitFrom .plain [] [] rest).map (finished current ++ ·) := by
  cases rest with
  | nil => simp [splitFrom, finished, Except.map]
  | cons char rest =>
      have isBlank := ends char rfl
      rw [splitFrom_blank isBlank, splitFrom_blank isBlank, if_pos rfl, if_pos rfl]
      cases splitFrom .plain [] [] rest <;> rfl

/-- What follows a word begins with a blank. -/
theorem head?_blank_of_separated {words : List Word} {trailing : List Char}
    (onlyBlanks : trailing.all Text.isBlank = true)
    (separated : ∀ word ∈ words, word.blanks ≠ []) :
    ∀ char ∈ (words.flatMap Word.chars ++ trailing).head?, Text.isBlank char = true := by
  intro char first
  cases words with
  | nil => exact List.all_eq_true.mp onlyBlanks char (List.mem_of_mem_head? first)
  | cons word words =>
      obtain ⟨blank, others, blanks⟩ :=
        List.exists_cons_of_ne_nil (separated word List.mem_cons_self)
      have isBlank := List.all_eq_true.mp word.onlyBlanks blank (by simp [blanks])
      have same : blank = char := by simpa [Word.chars, blanks] using first
      rwa [← same]

/-- Words with blanks between them become one token each. -/
theorem splitFrom_words {words : List Word} {trailing : List Char}
    (onlyBlanks : trailing.all Text.isBlank = true)
    (separated : ∀ word ∈ words.tail, word.blanks ≠ []) :
    splitFrom .plain [] [] (words.flatMap Word.chars ++ trailing) =
      .ok (words.map fun word => String.ofList word.token) := by
  induction words with
  | nil =>
      have skipped := splitFrom_blanks onlyBlanks []
      rwa [List.append_nil] at skipped
  | cons word words ih =>
      rw [List.tail_cons] at separated
      have keeps : Keeps [] word.token := word.isToken.nested.keeps (by simp)
      have later := ih fun next member =>
        separated next (List.mem_of_mem_tail member)
      have inhabited : word.token.reverse.isEmpty = false := by simp [word.isToken.inhabited]
      rw [List.flatMap_cons, Word.chars, List.append_assoc, List.append_assoc,
        splitFrom_blanks word.onlyBlanks, keeps, List.append_nil,
        splitFrom_finished (head?_blank_of_separated onlyBlanks separated), later]
      simp [Except.map, finished, inhabited]

theorem Layout.split (layout : Layout) :
    Token.split (String.ofList layout.chars) = .ok layout.tokens := by
  rw [Token.split, String.toList_ofList]
  exact splitFrom_words layout.onlyBlanks layout.separated

/-- Every line is laid out or has a defect. -/
theorem layout_or_defect (line : List Char) :
    (∃ layout : Layout, layout.chars = line) ∨ EndsInString line ∨
      (∃ closing, Mismatches closing line) ∨ ∃ opening nesting, Open (opening :: nesting) line := by
  rcases open_or_defect line with ⟨nesting, isOpen⟩ | ends | mismatch
  · cases isOpen with
    | closed nested => exact .inl nested.exists_layout
    | bracket earlier opens inner =>
        exact .inr (.inr (.inr ⟨_, _, .bracket earlier opens inner⟩))
  · exact .inr (.inl ends)
  · exact .inr (.inr (.inl mismatch))

/-- The answer for a line, with the case it stands for. -/
theorem split_cases (line : String) :
    (∃ layout : Layout, layout.chars = line.toList ∧ split line = .ok layout.tokens) ∨
      (EndsInString line.toList ∧ split line = .error .unterminatedString) ∨
      ∃ bracket, split line = .error (.unbalanced bracket) ∧
        (Mismatches bracket line.toList ∨ ∃ nesting, Open (bracket :: nesting) line.toList) := by
  rcases layout_or_defect line.toList with
    ⟨layout, whole⟩ | ends | ⟨closing, mismatch⟩ | ⟨opening, nesting, isOpen⟩
  · have answer := layout.split
    rw [whole, String.ofList_toList] at answer
    exact .inl ⟨layout, whole, answer⟩
  · exact .inr (.inl ⟨ends, split_of_endsInString ends⟩)
  · exact .inr (.inr ⟨closing, split_of_mismatches mismatch, .inl mismatch⟩)
  · exact .inr (.inr ⟨opening, split_of_open isOpen, .inr ⟨nesting, isOpen⟩⟩)

/-- A line is split into tokens exactly if it is laid out from them. -/
theorem split_eq_ok_iff {line : String} {tokens : List String} :
    split line = .ok tokens ↔
      ∃ layout : Layout, layout.chars = line.toList ∧ layout.tokens = tokens := by
  constructor
  · intro answer
    rcases split_cases line with ⟨layout, whole, found⟩ | ⟨_, found⟩ | ⟨bracket, found, _⟩
    · rw [answer] at found
      cases found
      exact ⟨layout, whole, rfl⟩
    all_goals
      rw [answer] at found
      cases found
  · rintro ⟨layout, whole, rfl⟩
    rw [← layout.split, whole, String.ofList_toList]

theorem split_eq_unterminatedString_iff {line : String} :
    split line = .error .unterminatedString ↔ EndsInString line.toList := by
  constructor
  · intro answer
    rcases split_cases line with ⟨layout, _, found⟩ | ⟨ends, _⟩ | ⟨bracket, found, _⟩
    · rw [answer] at found
      cases found
    · exact ends
    · rw [answer] at found
      cases found
  · exact split_of_endsInString

/-- A line is refused for a bracket exactly if it closes wrongly or is the last to
stay open. -/
theorem split_eq_unbalanced_iff {line : String} {bracket : Char} :
    split line = .error (.unbalanced bracket) ↔
      Mismatches bracket line.toList ∨ ∃ nesting, Open (bracket :: nesting) line.toList := by
  constructor
  · intro answer
    rcases split_cases line with ⟨layout, _, found⟩ | ⟨_, found⟩ | ⟨other, found, defect⟩
    all_goals
      rw [answer] at found
      cases found
    exact defect
  · rintro (mismatch | ⟨nesting, isOpen⟩)
    · exact split_of_mismatches mismatch
    · exact split_of_open isOpen

/-- Splitting accepts exactly the lines of tokens and gives their tokens. A token
followed by others, each with a blank or more before it, splits into just these. On
any other line the error is that of the first defect: a string that does not end, a
closing bracket that does not match the innermost open one, or else the innermost
bracket open at the end of the line. -/
theorem split_reads_lines_of_tokens :
    (∀ line tokens, split line = .ok tokens ↔
      ∃ layout : Layout, layout.chars = line.toList ∧ layout.tokens = tokens) ∧
    (∀ (first : List Char) (others : List Word), IsToken first →
      (∀ other ∈ others, other.blanks ≠ []) →
      split (String.ofList (first ++ others.flatMap Word.chars)) =
        .ok (String.ofList first :: others.map fun other => String.ofList other.token)) ∧
    (∀ line, split line = .error .unterminatedString ↔ EndsInString line.toList) ∧
    (∀ line bracket, split line = .error (.unbalanced bracket) ↔
      Mismatches bracket line.toList ∨ ∃ nesting, Open (bracket :: nesting) line.toList) ∧
    ∀ line, split line ≠ .error .malformedLet := by
  refine ⟨fun _ _ => split_eq_ok_iff, ?_, fun _ => split_eq_unterminatedString_iff,
    fun _ _ => split_eq_unbalanced_iff, ?_⟩
  · intro first others isToken separated
    let layout : Layout := ⟨⟨[], first, rfl, isToken⟩ :: others, [], rfl, separated⟩
    refine split_eq_ok_iff.mpr ⟨layout, ?_, rfl⟩
    simp [layout, Layout.chars, Word.chars]
  · intro line answer
    rcases split_cases line with ⟨layout, _, found⟩ | ⟨_, found⟩ | ⟨other, found, _⟩
    all_goals
      rw [answer] at found
      cases found

/-- A string that holds a blank, a closing bracket and an escaped quote. -/
def quotedSample : Word where
  blanks := [' ']
  token := ['\x22', 'a', ' ', ']', '\\', '\x22', '\x22']
  onlyBlanks := by decide
  isToken := by
    have body : StringBody ['a', ' ', ']', '\\', '\x22'] :=
      .char (by decide) (by decide) (.char (by decide) (by decide)
        (.char (by decide) (by decide) (.escape _ .nil)))
    exact ⟨by simp, .string body .nil⟩

/-- Nested brackets after a letter, with blanks in and before them. -/
def bracketedSample : Word where
  blanks := ['\t', '\u3000']
  token := ['x', '[', '1', ' ', '\x7b', '\x7d', ']']
  onlyBlanks := by decide
  isToken := by
    have braces : Nested true ['\x7b', '\x7d'] := .bracketed rfl .nil .nil
    have inner : Nested true ['1', ' ', '\x7b', '\x7d'] :=
      .word (by decide) (.blank rfl (by decide) braces)
    exact ⟨by simp, .word (by decide) (.bracketed rfl inner .nil)⟩

/-- A string with a bracket and an escaped quote, and brackets around a blank,
after a tab and a wide blank. -/
theorem samples_are_split :
    IsToken ['f'] ∧ (∀ other ∈ [quotedSample, bracketedSample], other.blanks ≠ []) ∧
      split "f \"a ]\\\"\"\t\u3000x[1 \x7b\x7d]" =
        .ok ["f", "\"a ]\\\"\"", "x[1 \x7b\x7d]"] := by
  have isToken : IsToken ['f'] := ⟨by simp, .word (by decide) .nil⟩
  have separated : ∀ other ∈ [quotedSample, bracketedSample], other.blanks ≠ [] := by
    simp [quotedSample, bracketedSample]
  exact ⟨isToken, separated,
    split_reads_lines_of_tokens.2.1 ['f'] [quotedSample, bracketedSample] isToken separated⟩

end Token
end ScriptCore
