import ScriptCore.Host.Shell.Format
import ScriptCore.Host.Shell.Process

/-!
# Programs

The programs of a host that scripts can start. Programs that compute, test or
start others do their work; those that only look at files say whether the files
are there, and all others succeed without effect.
-/

namespace ScriptCore
namespace Shell

/-- The last name of a path. -/
def baseName (path : List Char) : List Char :=
  (path.reverse.takeWhile (· != '/')).reverse

/-- Split a text at a character. -/
def splitAt (separator : Char) : List Char → List (List Char)
  | [] => [[]]
  | char :: chars =>
      match splitAt separator chars with
      | first :: others =>
          if char = separator then [] :: first :: others else (char :: first) :: others
      | [] => [[char]]

/-- Where a name leads: to a program, to something else, or to nothing. -/
inductive Located where
  | program (name : String)
  | forbidden
  | missing
deriving DecidableEq

/-- The program at a path. -/
def locatePath (files : FileTree) (path : List Char) : Located :=
  match files.find (String.ofList path) with
  | .ok .program => .program (String.ofList (baseName path))
  | .ok _ => .forbidden
  | .error _ => .missing

/-- The program that a name means. A name without a slash is looked up in the
directories of the search path. -/
def locate (state : State) (name : List Char) : Located :=
  if name.contains '/' then locatePath state.files name
  else if name.isEmpty then .missing
  else
    let directories := splitAt ':' ((state.valueOf? "PATH").getD [])
    let candidates := directories.map fun directory =>
      locatePath state.files (directory ++ '/' :: name)
    match candidates.find? fun
      | .program _ => true
      | _ => false with
    | some found => found
    | none => .missing

/-! ## Computation -/

/-- A number that `expr` can compute with. -/
def exprInteger? (text : List Char) : Option Int :=
  match text with
  | '+' :: _ => none
  | ' ' :: _ => none
  | _ => integerOf? true text

/-- Whether a value counts as true for `expr`. -/
def exprTruth (text : List Char) : Bool :=
  !text.isEmpty && exprInteger? text != some 0

/-- The value of two operands of `expr`. -/
def exprBinary (left operator right : List Char) : Option (List Char) :=
  let compare (integers : Int → Int → Bool) (texts : Bool) : Option (List Char) :=
    match exprInteger? left, exprInteger? right with
    | some first, some second => some (integerText (truth (integers first second)))
    | _, _ => some (integerText (truth texts))
  let compute (apply : Int → Int → Option Int) : Option (List Char) := do
    let first ← exprInteger? left
    let second ← exprInteger? right
    return integerText (← apply first second)
  match String.ofList operator with
  | "+" => compute fun first second => some (first + second)
  | "-" => compute fun first second => some (first - second)
  | "*" => compute fun first second => some (first * second)
  | "/" => compute fun first second => if second = 0 then none else some (first.tdiv second)
  | "%" => compute fun first second => if second = 0 then none else some (first.tmod second)
  | "=" => compare (· = ·) (left = right)
  | "!=" => compare (· ≠ ·) (left ≠ right)
  | "<" => compare (· < ·) (textLess left right)
  | ">" => compare (· > ·) (textLess right left)
  | "<=" => compare (· ≤ ·) (!textLess right left)
  | ">=" => compare (· ≥ ·) (!textLess left right)
  | "|" => some (if exprTruth left then left else if exprTruth right then right else ['0'])
  | "&" => some (if exprTruth left && exprTruth right then left else ['0'])
  | _ => none

/-- The value of operands from the left. -/
def exprValue : List Char → List (List Char) → Option (List Char)
  | value, [] => some value
  | value, operator :: operand :: rest => do
      exprValue (← exprBinary value operator operand) rest
  | _, [_] => none

/-- The integers that `seq` counts through. -/
def countUp (first last : Int) : List Int :=
  (List.range (last - first + 1).toNat).map fun offset : Nat => first + (offset : Int)

/-! ## Search -/

/-- The lines of a text. -/
def linesOf (chars : List Char) : List (List Char) :=
  let pieces := splitAt '\n' chars
  if pieces.getLast? = some [] then pieces.dropLast else pieces

/-- Whether a text holds another. -/
def holdsText (text : List Char) (chars : List Char) : Bool :=
  (suffixes chars).any fun rest => text.isPrefixOf rest

/-- Whether a line matches a simple expression, of which only the anchors at
its ends have a meaning. -/
def lineMatches (expression line : List Char) : Bool :=
  match expression with
  | '^' :: rest =>
      match rest.reverse with
      | '$' :: body => body.reverse = line
      | _ => rest.isPrefixOf line
  | _ =>
      match expression.reverse with
      | '$' :: body => body.isPrefixOf line.reverse
      | _ => holdsText expression line

/-! ## Running -/

/-- Write to the output channel; the status says whether it worked. -/
def writeOut (chars : List Char) : Act Nat := do
  if ← write 1 chars then return 0 else return 1

/-- Take options off the front of arguments. -/
def splitOptions : List (List Char) → List (List Char) × List (List Char)
  | [] => ([], [])
  | ['-', '-'] :: rest => ([], rest)
  | ('-' :: char :: chars) :: rest =>
      let (options, args) := splitOptions rest
      (('-' :: char :: chars) :: options, args)
  | args => ([], args)

/-- Whether all paths lead somewhere. -/
def allExist (paths : List (List Char)) : Act Bool := do
  let files := (← get).files
  return paths.all fun path => fileHas files 'e' path

/-- Start a new shell on its arguments. -/
def runShell (runText : RunText) (args : List (List Char)) : Act ProcessEnd := do
  let (options, rest) := splitOptions args
  let letters := options.flatMap List.tail
  let state ← get
  let withFlags (state : State) : State :=
    let kept := letters.filter fun letter => flagLetters.contains letter && letter != 's'
    { state with flags := kept }
  if letters.any fun letter => letter != 'c' && !flagLetters.contains letter then
    return .exited 2
  else if letters.contains 'c' then
    match rest with
    | [] => return .exited 2
    | text :: rest =>
        let start := withFlags (state.spawn (rest.headD ['s', 'h']) rest.tail)
        runProcess runText start (runText text)
  else
    match rest with
    | [] =>
        let start := withFlags (state.spawn ['s', 'h'] [])
        runProcess runText { start with input := [] } (runText state.input)
    | path :: rest =>
        match state.files.find (String.ofList path) with
        | .ok .device => runProcess runText (withFlags (state.spawn path rest)) (runText [])
        | .ok _ => return .exited 126
        | .error _ => return .exited 2

/-- Programs that refuse to run without operands. -/
def needsOperands : List String :=
  ["basename", "chmod", "cp", "cut", "dirname", "ln", "mkdir", "mv", "rm", "rmdir", "sed", "sleep",
    "stat", "touch", "tr"]

/-- Run a program that starts no other. -/
def runPlainProgram (name : String) (args : List (List Char)) : Act Nat := do
  let files := (← get).files
  let (options, operands) := splitOptions args
  if needsOperands.contains name && args.isEmpty then return 1
  match name with
  | "true" => return 0
  | "false" => return 1
  | "test" => return testStatus files args
  | "[" => return bracketStatus files args
  | "echo" => writeOut (echoText args)
  | "printf" =>
      match args with
      | [] => return 1
      | format :: args =>
          let (text, isRight) := printText format args
          let status ← writeOut text
          return if isRight then status else 1
  | "sleep" =>
      modify fun state => { state with hasSlept := true }
      passTime
      return 0
  | "cat" =>
      if operands.isEmpty then
        let input := (← get).input
        modify fun state => { state with input := [] }
        writeOut input
      else return if ← allExist operands then 0 else 1
  | "expr" =>
      match args with
      | [] => return 2
      | first :: rest =>
          match exprValue first rest with
          | none => return 2
          | some value =>
              let _ ← writeOut (value ++ ['\n'])
              return if exprTruth value then 0 else 1
  | "seq" =>
      let range? : Option (Int × Int) :=
        match args with
        | [last] => (integerOf? true last).map fun last => (1, last)
        | [first, last] => do
            return (← integerOf? true first, ← integerOf? true last)
        | _ => none
      match range? with
      | some (first, last) =>
          writeOut ((countUp first last).flatMap fun value => integerText value ++ ['\n'])
      | none => return 1
  | "printenv" =>
      match args with
      | [name] =>
          match ((← get).exported).lookup (String.ofList name) with
          | some value => writeOut (value ++ ['\n'])
          | none => return 1
      | _ => return 0
  | "basename" => writeOut (baseName (args.headD []) ++ ['\n'])
  | "pwd" => writeOut ((((← get).valueOf? "PWD").getD ['/']) ++ ['\n'])
  | "grep" =>
      match operands with
      | [expression] =>
          let input := (← get).input
          modify fun state => { state with input := [] }
          let isInverted := options.any fun option => option.contains 'v'
          let isQuiet := options.any fun option => option.contains 'q'
          let found := (linesOf input).filter fun line =>
            lineMatches expression line != isInverted
          if !isQuiet then
            let _ ← writeOut (found.flatMap fun line => line ++ ['\n'])
          return if found.isEmpty then 1 else 0
      | _ => return 2
  | "wc" =>
      let input := (← get).input
      modify fun state => { state with input := [] }
      let count :=
        if options.contains ['-', 'l'] then input.countP (· = '\n') else input.length
      writeOut (digitsOf count ++ ['\n'])
  | "ls" => return if ← allExist operands then 0 else 2
  | "rm" | "rmdir" | "mv" | "cp" | "stat" | "find" | "chmod" =>
      return if (← allExist operands) || options.contains ['-', 'f'] then 0 else 1
  | _ => return 0

/-- Run a program. -/
def runProgram (runText : RunText) : Nat → String → List (List Char) → Act ProcessEnd
  | 0, _, _ => throw .exhausted
  | fuel + 1, name, args => do
      let next (args : List (List Char)) : Act ProcessEnd := do
        match args with
        | [] => return .exited 0
        | name :: args =>
            match locate (← get) name with
            | .program name => runProgram runText fuel name args
            | .forbidden => return .exited 126
            | .missing => return .exited 127
      match name with
      | "sh" | "dash" | "bash" => runShell runText args
      | "env" =>
          let (_, rest) := splitOptions args
          let settings := rest.takeWhile fun word => (assignment? word).isSome
          let before ← get
          let exportAll (state : State) (word : List Char) : State :=
            match assignment? word with
            | some (name, value) =>
                state.setVariable name
                  (some { value? := some value, isExported := true, isReadOnly := false })
            | none => state
          set (settings.foldl exportAll before)
          let ending ← next (rest.drop settings.length)
          modify fun state => { state with bindings := before.bindings }
          return ending
      | "nice" => next (splitOptions args).2
      | "timeout" => next (splitOptions args).2.tail
      | "kill" => return .exited 0
      | _ => return .exited (← runPlainProgram name args)

end Shell
end ScriptCore
