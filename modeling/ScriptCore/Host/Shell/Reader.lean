import ScriptCore.Host.Shell.Syntax

/-!
# Reading shell commands

Scripts are read a line at a time, where a line goes on as long as a command in
it is not complete. Each reader takes characters and returns what it read with
the rest; without a result the script has no meaning there.

Readers call each other on ever shorter texts. The first argument bounds the
depth of these calls; `readLine` starts with more than any text can need.
-/

namespace ScriptCore
namespace Shell

/-! ## Blanks and operators -/

/-- Characters that end a word. -/
def isMeta (char : Char) : Bool :=
  ['\n', ' ', '\t', ';', '&', '|', '(', ')', '<', '>'].contains char

/-- Characters of a word that stand for themselves without quotes. -/
def isPlain (char : Char) : Bool :=
  !(isMeta char || ['\\', '\x27', '\x22', '$', '\x60'].contains char)

/-- Skip blanks, continued lines and a comment. -/
def skipBlanks : List Char → List Char
  | ' ' :: chars => skipBlanks chars
  | '\t' :: chars => skipBlanks chars
  | '\\' :: '\n' :: chars => skipBlanks chars
  | '#' :: chars => chars.dropWhile (· != '\n')
  | chars => chars

/-- Skip blanks, comments and line ends. -/
def skipLines : Nat → List Char → List Char
  | 0, chars => chars
  | fuel + 1, chars =>
      match skipBlanks chars with
      | '\n' :: rest => skipLines fuel rest
      | rest => rest

/-- Skip blanks, comments and line ends. -/
def skipSpace (chars : List Char) : List Char :=
  skipLines (chars.length + 1) chars

/-- Words with a meaning of their own where a command may begin. -/
def reservedWords : List String :=
  ["!", "\x7b", "\x7d", "case", "do", "done", "elif", "else", "esac", "fi", "for", "if", "in",
    "then", "until", "while"]

/-- Reserved words that end a list of commands. -/
def closingWords : List String :=
  ["\x7d", "do", "done", "elif", "else", "esac", "fi", "then"]

/-- The reserved word at the front of a text. -/
def reserved? (chars : List Char) : Option (String × List Char) :=
  let word := chars.takeWhile fun char => !isMeta char
  let text := String.ofList word
  if reservedWords.contains text then some (text, chars.drop word.length) else none

/-- Read a given reserved word, after blanks and line ends. -/
def expectReserved (word : String) (chars : List Char) : Option (List Char) := do
  let (found, rest) ← reserved? (skipSpace chars)
  if found = word then some rest else none

/-- Whether a list of commands ends here. -/
def endsList (chars : List Char) : Bool :=
  match chars with
  | [] => true
  | ')' :: _ => true
  | ';' :: ';' :: _ => true
  | _ =>
      match reserved? chars with
      | some (word, _) => closingWords.contains word
      | none => false

/-! ## Quoted text -/

/-- Read up to a closing single quote. -/
def readSingleQuoted (chars : List Char) : Option (List Char × List Char) :=
  let body := chars.takeWhile (· != '\x27')
  match chars.drop body.length with
  | _ :: rest => some (body, rest)
  | [] => none

/-- Read the text between backquotes. A backslash takes the special meaning
from a dollar sign, a backquote or a backslash, and between double quotes from
a double quote too. -/
def readBackquoted (inQuotes : Bool) : List Char → Option (List Char × List Char)
  | [] => none
  | '\x60' :: rest => some ([], rest)
  | '\\' :: '\n' :: rest => readBackquoted inQuotes rest
  | '\\' :: char :: rest => do
      let (body, rest) ← readBackquoted inQuotes rest
      if ['\\', '$', '\x60'].contains char || (inQuotes && char = '\x22') then
        some (char :: body, rest)
      else some ('\\' :: char :: body, rest)
  | char :: rest => do
      let (body, rest) ← readBackquoted inQuotes rest
      some (char :: body, rest)

/-- Where parts of a word stand. -/
inductive Setting where
  /-- Between double quotes. -/
  | quotes
  /-- In a text that stands in the script, which has no closing quote. -/
  | document
  /-- In an arithmetic expression with the given number of open parentheses. -/
  | arithmetic (depth : Nat)
  /-- In braces, outside of quotes. -/
  | braces
  /-- In braces between double quotes. -/
  | quotedBraces
deriving DecidableEq

namespace Setting

/-- Whether quotes have no meaning and few characters can be escaped. -/
def isQuoted : Setting → Bool
  | braces => false
  | _ => true

/-- Characters whose special meaning a backslash takes away. -/
def escapes (setting : Setting) (char : Char) : Bool :=
  match setting with
  | braces => true
  | quotedBraces => ['$', '\x60', '\x22', '\\', '\x7d'].contains char
  | document => ['$', '\x60', '\\'].contains char
  | _ => ['$', '\x60', '\x22', '\\'].contains char

end Setting

/-- Put a character before parts. -/
def addChar (char : Char) : List Part → List Part
  | .literal chars :: parts => .literal (char :: chars) :: parts
  | parts => .literal [char] :: parts

/-! ## Texts that stand in the script -/

/-- Lines up to a delimiter, and the rest. -/
def readDocument (delimiter : List Char) (dropTabs : Bool) :
    Nat → List Char → List Char × List Char
  | 0, chars => ([], chars)
  | _ + 1, [] => ([], [])
  | fuel + 1, chars =>
      let start := if dropTabs then chars.dropWhile (· = '\t') else chars
      let line := start.takeWhile (· != '\n')
      let rest := (start.drop line.length).drop 1
      if line = delimiter then ([], rest)
      else
        let (body, after) := readDocument delimiter dropTabs fuel rest
        (line ++ '\n' :: body, after)

/-- Take a document out of the lines after this one. -/
def takeDocument (delimiter : List Char) (dropTabs : Bool) (chars : List Char) :
    List Char × List Char :=
  let line := chars.takeWhile (· != '\n')
  match chars.drop line.length with
  | [] => ([], chars)
  | lineEnd :: rest =>
      let (body, after) := readDocument delimiter dropTabs (rest.length + 1) rest
      (body, line ++ lineEnd :: after)

/-- The text of a delimiter, and whether it is quoted. -/
def delimiterOf : Word → List Char × Bool
  | [] => ([], false)
  | .literal chars :: parts =>
      let (rest, isQuoted) := delimiterOf parts
      (chars ++ rest, isQuoted)
  | .escaped chars :: parts => (chars ++ (delimiterOf parts).1, true)
  | .quoted [] :: parts => ((delimiterOf parts).1, true)
  | .quoted (.literal chars :: _) :: parts => (chars ++ (delimiterOf parts).1, true)
  | _ :: parts => delimiterOf parts

/-! ## Redirections -/

/-- The operator of a redirection: its usual channel, its kind, and whether a
document loses its leading tabs. -/
def redirectOperator? : List Char → Option ((Nat × RedirectKind × Bool) × List Char)
  | '<' :: '<' :: '-' :: rest => some ((0, .document, true), rest)
  | '<' :: '<' :: rest => some ((0, .document, false), rest)
  | '<' :: '&' :: rest => some ((0, .duplicate, false), rest)
  | '<' :: '>' :: rest => some ((0, .readWrite, false), rest)
  | '<' :: rest => some ((0, .read, false), rest)
  | '>' :: '>' :: rest => some ((1, .write, false), rest)
  | '>' :: '&' :: rest => some ((1, .duplicate, false), rest)
  | '>' :: '|' :: rest => some ((1, .write, false), rest)
  | '>' :: rest => some ((1, .write, false), rest)
  | _ => none

/-- The start of a redirection, with a channel of one digit or none. -/
def redirectStart? (chars : List Char) : Option ((Nat × RedirectKind × Bool) × List Char) :=
  match chars with
  | digit :: rest =>
      if digit.isDigit then do
        let ((_, kind, dropTabs), rest) ← redirectOperator? rest
        some ((digit.toNat - '0'.toNat, kind, dropTabs), rest)
      else redirectOperator? chars
  | [] => none

/-! ## Words and commands -/

/-- Commands that a function cannot replace. -/
def specialBuiltins : List String :=
  [".", ":", "break", "continue", "eval", "exec", "exit", "export", "local", "readonly", "return",
    "set", "shift", "times", "trap", "unset"]

/-- The text of a word without any quotes or expansions. -/
def literalText? : Word → Option (List Char)
  | [.literal chars] => some chars
  | _ => none

/-- An assignment at the start of a command. -/
def assignmentWord? : Word → Option (String × Word)
  | .literal chars :: parts => do
      let (name, value) ← assignment? chars
      some (name, if value.isEmpty then parts else .literal value :: parts)
  | _ => none

/-- A name for a function. -/
def functionName? (words : List Word) : Option String := do
  match words with
  | [word] =>
      let chars ← literalText? word
      let name := String.ofList chars
      if isName chars && !specialBuiltins.contains name then some name else none
  | _ => none

/-- Join commands of a list. -/
def joinCommands : Command → Command → Command
  | .nothing, next => next
  | first, .nothing => first
  | first, next => .sequence first next

/-- Attach redirections to a command. -/
def withRedirects (body : Command) : List Redirect → Command
  | [] => body
  | redirects => .redirected body redirects

mutual

/-- Read a word. -/
def readWord : Nat → List Char → Option (Word × List Char)
  | 0, _ => none
  | fuel + 1, chars =>
      match chars with
      | [] => some ([], [])
      | '\\' :: '\n' :: rest => readWord fuel rest
      | ['\\'] => some ([.escaped ['\\']], [])
      | '\\' :: char :: rest => do
          let (parts, rest) ← readWord fuel rest
          some (.escaped [char] :: parts, rest)
      | '\x27' :: rest => do
          let (body, rest) ← readSingleQuoted rest
          let (parts, rest) ← readWord fuel rest
          some (.escaped body :: parts, rest)
      | '\x22' :: rest => do
          let (inner, rest) ← readParts fuel .quotes rest
          let (parts, rest) ← readWord fuel rest
          some (.quoted inner :: parts, rest)
      | '\x60' :: rest => do
          let (part, rest) ← readBackquote fuel false rest
          let (parts, rest) ← readWord fuel rest
          some (part :: parts, rest)
      | '$' :: rest => do
          let (part, rest) ← readDollar fuel false rest
          let (parts, rest) ← readWord fuel rest
          some (part :: parts, rest)
      | char :: _ =>
          if isMeta char then some ([], chars)
          else do
            let run := chars.takeWhile isPlain
            let (parts, rest) ← readWord fuel (chars.drop run.length)
            match parts with
            | .literal more :: parts => some (.literal (run ++ more) :: parts, rest)
            | _ => some (.literal run :: parts, rest)

/-- Read parts up to the end of their setting. -/
def readParts : Nat → Setting → List Char → Option (List Part × List Char)
  | 0, _, _ => none
  | fuel + 1, setting, chars =>
      match chars with
      | [] => if setting = .document then some ([], []) else none
      | '\\' :: '\n' :: rest => readParts fuel setting rest
      | '\\' :: char :: rest =>
          if setting.escapes char then do
            let (parts, rest) ← readParts fuel setting rest
            some (.escaped [char] :: parts, rest)
          else do
            let (parts, rest) ← readParts fuel setting rest
            some (addChar '\\' (addChar char parts), rest)
      | '\x60' :: rest => do
          let (part, rest) ← readBackquote fuel setting.isQuoted rest
          let (parts, rest) ← readParts fuel setting rest
          some (part :: parts, rest)
      | '$' :: rest => do
          let (part, rest) ← readDollar fuel setting.isQuoted rest
          let (parts, rest) ← readParts fuel setting rest
          some (part :: parts, rest)
      | char :: rest =>
          match setting, char with
          | .quotes, '\x22' => some ([], rest)
          | .braces, '\x7d' => some ([], rest)
          | .quotedBraces, '\x7d' => some ([], rest)
          | .braces, '\x27' => do
              let (body, rest) ← readSingleQuoted rest
              let (parts, rest) ← readParts fuel setting rest
              some (.escaped body :: parts, rest)
          | .braces, '\x22' => do
              let (inner, rest) ← readParts fuel .quotes rest
              let (parts, rest) ← readParts fuel setting rest
              some (.quoted inner :: parts, rest)
          | .quotedBraces, '\x22' => do
              let (inner, rest) ← readParts fuel .quotes rest
              let (parts, rest) ← readParts fuel setting rest
              some (.quoted inner :: parts, rest)
          | .arithmetic depth, '(' => do
              let (parts, rest) ← readParts fuel (.arithmetic (depth + 1)) rest
              some (addChar char parts, rest)
          | .arithmetic 0, ')' =>
              match rest with
              | ')' :: rest => some ([], rest)
              | _ => do
                  let (parts, rest) ← readParts fuel setting rest
                  some (addChar char parts, rest)
          | .arithmetic (depth + 1), ')' => do
              let (parts, rest) ← readParts fuel (.arithmetic depth) rest
              some (addChar char parts, rest)
          | _, _ => do
              let (parts, rest) ← readParts fuel setting rest
              some (addChar char parts, rest)

/-- Read a command between backquotes. -/
def readBackquote : Nat → Bool → List Char → Option (Part × List Char)
  | 0, _, _ => none
  | fuel + 1, inQuotes, chars => do
      let (body, rest) ← readBackquoted inQuotes chars
      let (command, after) ← readList fuel true body
      if after.isEmpty then some (.output command, rest) else none

/-- Read what follows a dollar sign. -/
def readDollar : Nat → Bool → List Char → Option (Part × List Char)
  | 0, _, _ => none
  | fuel + 1, inQuotes, chars =>
      match chars with
      | '(' :: '(' :: rest => do
          let (parts, rest) ← readParts fuel (.arithmetic 0) rest
          some (.arithmetic parts, rest)
      | '(' :: rest => do
          let (command, rest) ← readList fuel true rest
          match rest with
          | ')' :: rest => some (.output command, rest)
          | _ => none
      | '\x7b' :: rest => readBraces fuel inQuotes rest
      | char :: rest =>
          if isNameStart char then
            let name := chars.takeWhile isNameChar
            some (.parameter (String.ofList name) .value, chars.drop name.length)
          else if char.isDigit || isSpecialParameter char then
            some (.parameter (String.singleton char) .value, rest)
          else some (.literal ['$'], chars)
      | [] => some (.literal ['$'], [])

/-- Read a parameter in braces. -/
def readBraces : Nat → Bool → List Char → Option (Part × List Char)
  | 0, _, _ => none
  | fuel + 1, inQuotes, chars =>
      let nameOf (chars : List Char) : List Char :=
        match chars with
        | char :: _ =>
            if isNameStart char then chars.takeWhile isNameChar
            else if char.isDigit then chars.takeWhile Char.isDigit
            else if isSpecialParameter char then [char]
            else []
        | [] => []
      match chars with
      | '#' :: '\x7d' :: rest => some (.parameter "#" .value, rest)
      | '#' :: char :: rest =>
          if char = '_' || char.isAlphanum then
            let name := nameOf (char :: rest)
            match (char :: rest).drop name.length with
            | '\x7d' :: rest => some (.parameter (String.ofList name) .length, rest)
            | rest => readForm fuel inQuotes none rest
          else
            match rest with
            | '\x7d' :: after =>
                if isSpecialParameter char then
                  some (.parameter (String.singleton char) .length, after)
                else readForm fuel inQuotes (some "#") (char :: rest)
            | _ => readForm fuel inQuotes (some "#") (char :: rest)
      | _ =>
          let name := nameOf chars
          if name.isEmpty then
            match chars with
            | '\x7d' :: _ => readForm fuel inQuotes none chars
            | _ => readForm fuel inQuotes none chars.tail
          else readForm fuel inQuotes (some (String.ofList name)) (chars.drop name.length)

/-- Read what follows the name of a parameter in braces. Without a name the
form is invalid, and so is a name before a character that is no operator. Such
a character counts for an operator, so it does not belong to the word. -/
def readForm : Nat → Bool → Option String → List Char → Option (Part × List Char)
  | 0, _, _, _ => none
  | fuel + 1, inQuotes, name?, chars =>
      let setting := if inQuotes then Setting.quotedBraces else .braces
      let withWord (make : List Part → Form) (setting : Setting) (rest : List Char) :
          Option (Part × List Char) := do
        let (word, rest) ← readParts fuel setting rest
        some (.parameter (name?.getD "") (make word), rest)
      let colonForm (orEmpty : Bool) (chars : List Char) : Option (Part × List Char) :=
        match chars with
        | '-' :: rest => withWord (.default orEmpty) setting rest
        | '=' :: rest => withWord (.assign orEmpty) setting rest
        | '?' :: rest => withWord (.require orEmpty) setting rest
        | '+' :: rest => withWord (.alternate orEmpty) setting rest
        | _ :: rest => withWord (fun _ => .invalid) setting rest
        | [] => none
      match name? with
      | none => withWord (fun _ => .invalid) setting chars
      | some name =>
          match chars with
          | '\x7d' :: rest => some (.parameter name .value, rest)
          | ':' :: rest => colonForm true rest
          | '%' :: '%' :: rest => withWord (.trim true true) .braces rest
          | '%' :: rest => withWord (.trim true false) .braces rest
          | '#' :: '#' :: rest => withWord (.trim false true) .braces rest
          | '#' :: rest => withWord (.trim false false) .braces rest
          | rest => colonForm false rest

/-- Read the target of a redirection. -/
def readRedirect : Nat → Nat × RedirectKind × Bool → List Char → Option (Redirect × List Char)
  | 0, _, _ => none
  | fuel + 1, (channel, kind, dropTabs), chars => do
      let (word, rest) ← readWord fuel (skipBlanks chars)
      if word.isEmpty then none
      else if kind = .document then
        let (delimiter, isQuoted) := delimiterOf word
        let (body, rest) := takeDocument delimiter dropTabs rest
        if isQuoted then some (.mk channel kind [.escaped body], rest)
        else
          let (parts, _) ← readParts fuel .document body
          some (.mk channel kind [.quoted parts], rest)
      else some (.mk channel kind word, rest)

/-- Read redirections. -/
def readRedirects : Nat → List Char → Option (List Redirect × List Char)
  | 0, _ => none
  | fuel + 1, chars =>
      let start := skipBlanks chars
      match redirectStart? start with
      | some (operator, rest) => do
          let (first, rest) ← readRedirect fuel operator rest
          let (others, rest) ← readRedirects fuel rest
          some (first :: others, rest)
      | none => some ([], start)

/-- Read the rest of a simple command. -/
def readSimple :
    Nat → List (String × Word) → List Word → List Redirect → List Char →
      Option (Command × List Char)
  | 0, _, _, _, _ => none
  | fuel + 1, assignments, words, redirects, chars =>
      let start := skipBlanks chars
      let finished : Option (Command × List Char) :=
        if assignments.isEmpty && words.isEmpty && redirects.isEmpty then none
        else some (.simple assignments words redirects, start)
      match redirectStart? start with
      | some (operator, rest) => do
          let (redirect, rest) ← readRedirect fuel operator rest
          readSimple fuel assignments words (redirects ++ [redirect]) rest
      | none =>
          match start with
          | [] => finished
          | '(' :: rest =>
              if assignments.isEmpty && redirects.isEmpty && words.length = 1 then
                match skipBlanks rest with
                | ')' :: rest => do
                    let name ← functionName? words
                    let (body, rest) ← readCommand fuel (skipSpace rest)
                    some (.define name body, rest)
                | _ => none
              else none
          | char :: _ =>
              if isMeta char then finished
              else do
                let (word, rest) ← readWord fuel start
                match words, assignmentWord? word with
                | [], some assignment =>
                    readSimple fuel (assignments ++ [assignment]) words redirects rest
                | _, _ => readSimple fuel assignments (words ++ [word]) redirects rest

/-- Read the rest of a conditional command after its first word. -/
def readBranch : Nat → List Char → Option (Command × List Char)
  | 0, _ => none
  | fuel + 1, chars => do
      let (test, rest) ← readList fuel false chars
      let rest ← expectReserved "then" rest
      let (yes, rest) ← readList fuel false rest
      match reserved? (skipSpace rest) with
      | some ("elif", rest) =>
          let (no, rest) ← readBranch fuel rest
          some (.branch test yes no, rest)
      | some ("else", rest) =>
          let (no, rest) ← readList fuel false rest
          let rest ← expectReserved "fi" rest
          some (.branch test yes no, rest)
      | some ("fi", rest) => some (.branch test yes .nothing, rest)
      | _ => none

/-- Read the body of a loop. -/
def readBody : Nat → List Char → Option (Command × List Char)
  | 0, _ => none
  | fuel + 1, chars => do
      let rest ← expectReserved "do" chars
      let (body, rest) ← readList fuel false rest
      let rest ← expectReserved "done" rest
      some (body, rest)

/-- Read words up to the end of a line or a semicolon. -/
def readWords : Nat → List Char → Option (List Word × List Char)
  | 0, _ => none
  | fuel + 1, chars =>
      match skipBlanks chars with
      | [] => none
      | ';' :: ';' :: _ => none
      | ';' :: rest => some ([], rest)
      | '\n' :: rest => some ([], rest)
      | start => do
          let (word, rest) ← readWord fuel start
          if word.isEmpty then none
          else
            let (words, rest) ← readWords fuel rest
            some (word :: words, rest)

/-- Read a loop over words after its first word. -/
def readEach : Nat → List Char → Option (Command × List Char)
  | 0, _ => none
  | fuel + 1, chars => do
      let (word, rest) ← readWord fuel (skipBlanks chars)
      let name ← literalText? word
      if isName name then
        let rest := skipSpace rest
        match reserved? rest with
        | some ("in", rest) =>
            let (words, rest) ← readWords fuel rest
            let (body, rest) ← readBody fuel rest
            some (.each (String.ofList name) (some words) body, rest)
        | _ =>
            let rest :=
              match rest with
              | ';' :: after => after
              | _ => rest
            let (body, rest) ← readBody fuel rest
            some (.each (String.ofList name) none body, rest)
      else none

/-- Read the patterns of a case up to their closing parenthesis. -/
def readPatterns : Nat → List Char → Option (List Word × List Char)
  | 0, _ => none
  | fuel + 1, chars => do
      let (word, rest) ← readWord fuel (skipBlanks chars)
      if word.isEmpty then none
      else
        match skipBlanks rest with
        | '|' :: rest =>
            let (words, rest) ← readPatterns fuel rest
            some (word :: words, rest)
        | ')' :: rest => some ([word], rest)
        | _ => none

/-- Read cases up to their closing word. -/
def readCases : Nat → List Char → Option ((List (List Word × Command)) × List Char)
  | 0, _ => none
  | fuel + 1, chars =>
      let start := skipSpace chars
      match reserved? start with
      | some ("esac", rest) => some ([], rest)
      | _ => do
          let (patterns, rest) ←
            match start with
            | '(' :: rest => readPatterns fuel rest
            | _ => readPatterns fuel start
          let (body, rest) ← readList fuel true rest
          match skipSpace rest with
          | ';' :: ';' :: rest =>
              let (cases, rest) ← readCases fuel rest
              some ((patterns, body) :: cases, rest)
          | rest =>
              match reserved? rest with
              | some ("esac", rest) => some ([(patterns, body)], rest)
              | _ => none

/-- Read a command. -/
def readCommand : Nat → List Char → Option (Command × List Char)
  | 0, _ => none
  | fuel + 1, chars =>
      let finish (body : Command) (rest : List Char) : Option (Command × List Char) := do
        let (redirects, rest) ← readRedirects fuel rest
        some (withRedirects body redirects, rest)
      match reserved? chars with
      | some ("if", rest) => do
          let (body, rest) ← readBranch fuel rest
          finish body rest
      | some ("while", rest) => do
          let (test, rest) ← readList fuel false rest
          let (body, rest) ← readBody fuel rest
          finish (.loop false test body) rest
      | some ("until", rest) => do
          let (test, rest) ← readList fuel false rest
          let (body, rest) ← readBody fuel rest
          finish (.loop true test body) rest
      | some ("for", rest) => do
          let (body, rest) ← readEach fuel rest
          finish body rest
      | some ("case", rest) => do
          let (subject, rest) ← readWord fuel (skipBlanks rest)
          if subject.isEmpty then none
          else
            let rest ← expectReserved "in" rest
            let (cases, rest) ← readCases fuel rest
            finish (.choice subject cases) rest
      | some ("\x7b", rest) => do
          let (body, rest) ← readList fuel false rest
          let rest ← expectReserved "\x7d" rest
          finish body rest
      | some _ => none
      | none =>
          match chars with
          | '(' :: rest => do
              let (body, rest) ← readList fuel false rest
              match rest with
              | ')' :: rest => finish (.subshell body) rest
              | _ => none
          | _ => readSimple fuel [] [] [] chars

/-- Read the stages of a pipeline after its first. -/
def readStages : Nat → List Char → Option (List Command × List Char)
  | 0, _ => none
  | fuel + 1, chars =>
      match skipBlanks chars with
      | '|' :: '|' :: rest => some ([], '|' :: '|' :: rest)
      | '|' :: rest => do
          let (stage, rest) ← readCommand fuel (skipSpace rest)
          let (stages, rest) ← readStages fuel rest
          some (stage :: stages, rest)
      | rest => some ([], rest)

/-- Read a pipeline, which a first word can negate. -/
def readPipeline : Nat → List Char → Option (Command × List Char)
  | 0, _ => none
  | fuel + 1, chars => do
      let (isNegated, start) :=
        match reserved? chars with
        | some ("!", rest) => (true, skipBlanks rest)
        | _ => (false, chars)
      let (first, rest) ← readCommand fuel start
      let (others, rest) ← readStages fuel rest
      let body := if others.isEmpty then first else .pipeline (first :: others)
      some (if isNegated then .negation body else body, rest)

/-- Read pipelines joined by `&&` and `||`, of which the first is known. -/
def readChain : Nat → Command → List Char → Option (Command × List Char)
  | 0, _, _ => none
  | fuel + 1, left, chars =>
      match skipBlanks chars with
      | '&' :: '&' :: rest => do
          let (right, rest) ← readPipeline fuel (skipSpace rest)
          readChain fuel (.both left right) rest
      | '|' :: '|' :: rest => do
          let (right, rest) ← readPipeline fuel (skipSpace rest)
          readChain fuel (.either left right) rest
      | rest => some (left, rest)

/-- Read one member of a list, and whether the list may go on. -/
def readMember : Nat → List Char → Option ((Command × Bool) × List Char)
  | 0, _ => none
  | fuel + 1, chars => do
      let (first, rest) ← readPipeline fuel chars
      let (command, rest) ← readChain fuel first rest
      match rest with
      | ';' :: ';' :: _ => some ((command, false), rest)
      | ';' :: rest => some ((command, true), rest)
      | '&' :: rest => some ((.background command, true), rest)
      | '\n' :: _ => some ((command, true), rest)
      | _ => some ((command, false), rest)

/-- Read a list of commands up to what closes it. -/
def readList : Nat → Bool → List Char → Option (Command × List Char)
  | 0, _, _ => none
  | fuel + 1, mayBeEmpty, chars =>
      let start := skipSpace chars
      if endsList start then
        if mayBeEmpty then some (.nothing, start) else none
      else do
        let ((command, goesOn), rest) ← readMember fuel start
        if goesOn then
          let (others, rest) ← readList fuel true rest
          some (joinCommands command others, rest)
        else some (command, rest)

/-- Read the members of a list up to the end of a line. -/
def readMembers : Nat → List Char → Option (Command × List Char)
  | 0, _ => none
  | fuel + 1, chars => do
      let ((command, goesOn), rest) ← readMember fuel chars
      match skipBlanks rest with
      | [] => some (command, [])
      | '\n' :: rest => some (command, rest)
      | start =>
          if goesOn then
            let (others, rest) ← readMembers fuel start
            some (joinCommands command others, rest)
          else none

end

/-- What stands at the front of a script. -/
inductive ScriptLine where
  /-- Nothing more. -/
  | finished
  /-- A line that can be run. -/
  | line (command : Command) (rest : List Char)
  /-- No command can be read. -/
  | invalid

/-- Read the first line of a script. -/
def readLine (script : List Char) : ScriptLine :=
  match skipBlanks script with
  | [] => .finished
  | '\n' :: rest => .line .nothing rest
  | start =>
      match readMembers (16 * start.length + 64) start with
      | some (command, rest) => .line command rest
      | none => .invalid

end Shell
end ScriptCore
