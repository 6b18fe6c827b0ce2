import ScriptCore.Host.Shell.Program

/-!
# Commands of the shell itself

Commands that the shell runs without starting a process. Each has a status as
its result; some interrupt the commands around them. A command of the language
that fails ends the shell; any other only has a status.
-/

namespace ScriptCore
namespace Shell

/-- Commands of the shell that are no part of the language. -/
def regularBuiltins : List String :=
  ["[", "alias", "bg", "cd", "chdir", "command", "echo", "false", "fg", "getopts", "hash", "jobs",
    "kill", "printf", "pwd", "read", "test", "true", "type", "ulimit", "umask", "unalias", "wait"]

/-- Whether the shell itself runs a command. -/
def isBuiltin (name : String) : Bool :=
  specialBuiltins.contains name || regularBuiltins.contains name

/-- A natural number, or an error. -/
def count (text : List Char) : Act Nat := do
  match countOf? text with
  | some value => return value
  | none => fail

/-! ## Control -/

/-- End the shell. -/
def runExit (args : List (List Char)) : Act Nat := do
  match args with
  | [] =>
      match (← get).trapStatus? with
      | some status => setStatus status
      | none => return ← throw .exiting
  | text :: _ => setStatus (← count text)
  throw .exiting

/-- End a function. -/
def runReturn (args : List (List Char)) : Act Nat := do
  match args with
  | [] => throw .returning
  | text :: _ =>
      setStatus (← count text)
      throw .returning

/-- End a loop, or its current round. -/
def runSkip (interrupt : Nat → Interrupt) (args : List (List Char)) : Act Nat := do
  let levels ←
    match args with
    | [] => pure 1
    | text :: _ => count text
  if levels = 0 then fail
  else
    let reached := min levels (← get).loops
    if reached = 0 then return 0
    else
      setStatus 0
      throw (interrupt reached)

/-- Drop positional parameters. -/
def runShift (args : List (List Char)) : Act Nat := do
  let amount ←
    match args with
    | [] => pure 1
    | text :: _ => count text
  let state ← get
  if state.params.length < amount then fail
  else
    set { state with params := state.params.drop amount }
    return 0

/-! ## Options and parameters -/

/-- Names of options with their letters. -/
def optionNames : List (String × Char) :=
  [("errexit", 'e'), ("noglob", 'f'), ("ignoreeof", 'I'), ("interactive", 'i'), ("monitor", 'm'),
    ("noexec", 'n'), ("stdin", 's'), ("xtrace", 'x'), ("verbose", 'v'), ("vi", 'V'),
    ("emacs", 'E'), ("noclobber", 'C'), ("allexport", 'a'), ("notify", 'b'), ("nounset", 'u')]

/-- Options that have a name only. -/
def silentOptions : List String :=
  ["nolog", "debug"]

/-- Turn an option on or off. -/
def setFlag (isOn : Bool) (flag : Char) : Act Unit := do
  if flagLetters.contains flag then
    modify fun state =>
      let others := state.flags.filter (· != flag)
      { state with flags := if isOn then flag :: others else others }
  else fail

/-- Turn an option on or off by its name. -/
def setOption (isOn : Bool) (name : List Char) : Act Unit := do
  match optionNames.lookup (String.ofList name) with
  | some flag => setFlag isOn flag
  | none => if silentOptions.contains (String.ofList name) then return else fail

/-- Set options and positional parameters. -/
def runSet : List (List Char) → Act Nat
  | [] => return 0
  | arg :: args => do
      match arg with
      | ['-', '-'] =>
          modify fun state => { state with params := args }
          return 0
      | ['-'] =>
          setFlag false 'x'
          setFlag false 'v'
          if !args.isEmpty then
            modify fun state => { state with params := args }
          return 0
      | sign :: letters =>
          if (sign = '-' || sign = '+') && !letters.isEmpty then
            let isOn := sign = '-'
            let named := letters.contains 'o'
            (letters.filter (· != 'o')).forM (setFlag isOn)
            if named then
              match args with
              | [] => return 0
              | name :: args =>
                  setOption isOn name
                  runSet args
            else runSet args
          else
            modify fun state => { state with params := arg :: args }
            return 0
      | [] =>
          modify fun state => { state with params := arg :: args }
          return 0

/-! ## Variables -/

/-- Take options of single letters off the front of arguments. Other letters
are an error. -/
def takeOptions (known : List Char) (args : List (List Char)) :
    Act (List Char × List (List Char)) := do
  let (options, operands) := splitOptions args
  let letters := options.flatMap List.tail
  if letters.all known.contains then return (letters, operands)
  else fail

/-- Declare variables, with or without values. -/
def runDeclare (change : Variable → Variable) (args : List (List Char)) : Act Nat := do
  let (_, operands) ← takeOptions ['p'] args
  operands.forM fun operand => do
    match assignment? operand with
    | some (name, value) =>
        assign name value
        modifyVariable name change
    | none =>
        if isName operand then modifyVariable (String.ofList operand) change
        else fail
  return 0

/-- Declare variables of a function. -/
def runLocal (args : List (List Char)) : Act Nat := do
  if (← get).hidden.isEmpty then fail
  else
    args.forM fun operand => do
      match assignment? operand with
      | some (name, value) =>
          hideVariable name
          assign name value
      | none =>
          if isName operand then hideVariable (String.ofList operand)
          else if operand = ['-'] then return
          else fail
    return 0

/-- Remove variables or functions. -/
def runUnset (args : List (List Char)) : Act Nat := do
  let (letters, operands) ← takeOptions ['v', 'f'] args
  operands.forM fun operand => do
    let name := String.ofList operand
    if letters.contains 'f' then
      modify fun state =>
        { state with functions := state.functions.filter fun entry => entry.1 != name }
    else if isName operand then unsetVariable name
    else fail
  return 0

/-- Read a line of the input into variables. The last takes what is left. -/
def runRead (args : List (List Char)) : Act Nat := do
  let (options, names) := splitOptions args
  let isRaw := options.any fun option => option.contains 'r'
  if names.isEmpty then fail
  else
    let state ← get
    let (line, rest, isWhole) := readInputLine isRaw (state.input.length + 1) state.input
    set { state with input := rest }
    fill state.separators names line
    return if isWhole then 0 else 1
where
  /-- The first line of an input, the rest, and whether the line is complete. -/
  readInputLine (isRaw : Bool) : Nat → List Char → List Char × List Char × Bool
    | 0, chars => ([], chars, false)
    | _ + 1, [] => ([], [], false)
    | fuel + 1, char :: chars =>
        if char = '\n' then ([], chars, true)
        else if char = '\\' && !isRaw then
          match chars with
          | '\n' :: rest => readInputLine isRaw fuel rest
          | next :: rest =>
              let (line, rest, isWhole) := readInputLine isRaw fuel rest
              (next :: line, rest, isWhole)
          | [] => ([], [], false)
        else
          let (line, rest, isWhole) := readInputLine isRaw fuel chars
          (char :: line, rest, isWhole)
  /-- Give the fields of a line to variables. -/
  fill (separators : List Char) : List (List Char) → List Char → Act Unit
    | [], _ => return
    | [name], line => do
        if isName name then
          let isBlank (char : Char) := separators.contains char && isSpace char
          let start := line.dropWhile isBlank
          assign (String.ofList name) (start.reverse.dropWhile isBlank).reverse
        else fail
    | name :: names, line => do
        if isName name then
          let isBlank (char : Char) := separators.contains char && isSpace char
          let start := line.dropWhile isBlank
          let field := start.takeWhile fun char => !separators.contains char
          let after := (start.drop field.length).dropWhile isBlank
          let after :=
            match after with
            | char :: rest =>
                if separators.contains char && !isSpace char then rest else after
            | [] => []
          assign (String.ofList name) field
          fill separators names after
        else fail

/-! ## Signals and jobs -/

/-- Send a signal to processes. -/
def sendAll (signal : Nat) (targets : List (List Char)) : Act Nat := do
  let results ← targets.mapM fun target => do
    match target with
    | '%' :: _ =>
        match (← get).lastJob? with
        | some pid => sendSignal signal pid
        | none => fail
    | _ => sendSignal signal (← count target)
  return if results.all id then 0 else 1

/-- Send signals, or list their names. -/
def runKill (args : List (List Char)) : Act Nat := do
  let send (signal : Nat) (targets : List (List Char)) : Act Nat :=
    if targets.isEmpty then fail else sendAll signal targets
  match args with
  | [] => fail
  | ('-' :: text) :: rest =>
      match signalOf? text with
      | some signal => send signal rest
      | none =>
          match text, rest with
          | ['s'], name :: rest =>
              match signalOf? name with
              | some signal => send signal rest
              | none => fail
          | 's' :: name, rest =>
              match signalOf? name with
              | some signal => send signal rest
              | none => fail
          | ['l'], _ => return 0
          | ['-'], rest => send termSignal rest
          | _, _ => fail
  | targets => send termSignal targets

/-- Set what happens on signals. -/
def runTrapCommand (args : List (List Char)) : Act Nat := do
  let (options, operands) := splitOptions args
  if !options.isEmpty then fail
  match operands with
  | [] => return 0
  | first :: rest =>
      let isReset := rest.isEmpty || (!first.isEmpty && first.all Char.isDigit)
      let action? := if isReset || first = ['-'] then none else some first
      setTraps action? (if isReset then operands else rest)
where
  /-- Set the traps of signals, up to the first that is unknown. -/
  setTraps (action? : Option (List Char)) : List (List Char) → Act Nat
    | [] => return 0
    | name :: names => do
        match signalOf? name with
        | none => return 1
        | some signal =>
            modify fun state =>
              let others := state.traps.filter fun entry => entry.1 != signal
              { state with
                traps :=
                  match action? with
                  | some action => (signal, action) :: others
                  | none => others }
            setTraps action? names

/-- Wait for processes. A signal with a trap ends the wait. -/
def runWait (args : List (List Char)) : Act Nat := do
  let wait (target : List Char) : Act Nat := do
    let state ← get
    let pid ←
      match target with
      | '%' :: _ => pure (state.lastJob?.getD 0)
      | _ => count target
    match state.jobs.find? fun job => job.pid = pid with
    | some job => return job.ending.status
    | none => return 127
  passTime
  match (← get).pending.head? with
  | some signal => return 128 + signal
  | none =>
      let results ← args.mapM wait
      return results.getLastD 0

/-! ## Other commands -/

/-- Change the working directory. -/
def runCd (args : List (List Char)) : Act Nat := do
  let state ← get
  let target? :=
    match (splitOptions args).2 with
    | [] => state.valueOf? "HOME"
    | ['-'] :: _ => state.valueOf? "OLDPWD"
    | path :: _ => some path
  match target? with
  | none => return 0
  | some path =>
      if path.isEmpty then return 0
      else if fileHas state.files 'd' path then
        assign "OLDPWD" ((state.valueOf? "PWD").getD [])
        assign "PWD" path
        return 0
      else fail

/-- Whether a name means a command. -/
def isKnown (name : List Char) : Act Bool := do
  let state ← get
  let text := String.ofList name
  if reservedWords.contains text || isBuiltin text then return true
  else if state.functions.any fun entry => entry.1 = text then return true
  else
    match locate state name with
    | .program _ => return true
    | .forbidden => return false
    | .missing => return false

/-- Say what names mean. -/
def runType (args : List (List Char)) : Act Nat := do
  let results ← args.mapM isKnown
  return if results.all id then 0 else 127

/-- The next option of the positional parameters or of given arguments. -/
def runGetopts (args : List (List Char)) : Act Nat := do
  match args with
  | optionLetters :: name :: rest =>
      let state ← get
      let operands := if rest.isEmpty then state.params else rest
      let index := ((state.valueOf? "OPTIND").bind countOf?).getD 1
      let target := String.ofList name
      match operands[index - 1]? with
      | some ['-', '-'] =>
          assign "OPTIND" (digitsOf (index + 1))
          assign target ['?']
          return 1
      | some ('-' :: letter :: more) =>
          let following := optionLetters.dropWhile (· != letter)
          let takesValue := (following.drop 1).head? = some ':'
          if following.isEmpty || letter = ':' then
            assign "OPTIND" (digitsOf (index + 1))
            assign target ['?']
            return 0
          else if takesValue then
            if more.isEmpty then
              assign "OPTARG" (operands[index]?.getD [])
              assign "OPTIND" (digitsOf (index + 2))
            else
              assign "OPTARG" more
              assign "OPTIND" (digitsOf (index + 1))
            assign target [letter]
            return 0
          else
            assign "OPTIND" (digitsOf (index + 1))
            assign target [letter]
            return 0
      | _ =>
          assign target ['?']
          return 1
  | _ => fail

/-- Read commands from a file. -/
def runDot (args : List (List Char)) : Act Nat := do
  match args with
  | [] => return 0
  | path :: _ =>
      match (← get).files.find (String.ofList path) with
      | .ok .device => return 0
      | _ => fail

/-- Run a text as commands. -/
def runEval (runText : RunText) (args : List (List Char)) : Act Nat := do
  setStatus 0
  runText (joined [' '] args)
  return (← get).status

/-- Run a command of the shell that starts no other command. -/
def runBuiltin (runText : RunText) (name : String) (args : List (List Char)) : Act Nat := do
  match name with
  | ":" | "true" => return 0
  | "false" => return 1
  | "exit" => runExit args
  | "return" => runReturn args
  | "break" => runSkip .breaking args
  | "continue" => runSkip .continuing args
  | "eval" => runEval runText args
  | "." => runDot args
  | "shift" => runShift args
  | "set" => runSet args
  | "export" => runDeclare (fun known => { known with isExported := true }) args
  | "readonly" => runDeclare (fun known => { known with isReadOnly := true }) args
  | "local" => runLocal args
  | "unset" => runUnset args
  | "read" => runRead args
  | "trap" => runTrapCommand args
  | "kill" => runKill args
  | "wait" => runWait args
  | "cd" | "chdir" => runCd args
  | "type" => runType args
  | "getopts" => runGetopts args
  | "alias" => return if args.all fun arg => arg.contains '=' then 0 else 1
  | "unalias" => return if args.isEmpty || args.contains ['-', 'a'] then 0 else 1
  | "fg" | "bg" => fail
  | "printf" => if args.isEmpty then fail else runPlainProgram name args
  | "[" | "echo" | "pwd" | "test" => runPlainProgram name args
  | _ => return 0

end Shell
end ScriptCore
