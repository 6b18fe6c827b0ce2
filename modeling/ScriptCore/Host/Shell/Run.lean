import ScriptCore.Host.Command
import ScriptCore.Host.Shell.Builtin

/-!
# Running shell commands

Commands are run on the state of a shell. All recursion is bounded: a script
that would go on for too long has no end here, and is taken to have been killed.

Nothing is printed, and no process of the host is started.
-/

namespace ScriptCore
namespace Shell

/-! ## Redirections -/

/-- Whether a file can be written at a path. -/
def canWrite (files : FileTree) (path : List Char) : Bool :=
  match files.find (String.ofList path) with
  | .ok .directory => false
  | .ok _ => true
  | .error .notFound =>
      let parent := path.take (path.length - (baseName path).length)
      !(baseName path).isEmpty && (parent.isEmpty || fileHas files 'd' parent)
  | .error _ => false

/-- Point a channel somewhere, or close it. -/
def setChannel (channel : Nat) (target? : Option Channel) : Act Unit :=
  modify fun state =>
    let others := state.channels.filter fun entry => entry.1 != channel
    { state with
      channels :=
        match target? with
        | some target => (channel, target) :: others
        | none => others }

/-- Carry out a redirection; the result says whether it is possible. -/
def applyRedirect (expander : Expander) : Redirect → Act Bool
  | .mk channel kind target => do
      let text ← expander.text target
      let files := (← get).files
      let readFrom (input : List Char) : Act Bool := do
        setChannel channel (some .dropped)
        if channel = 0 then
          modify fun state => { state with input }
        return true
      match kind with
      | .document => readFrom text
      | .read =>
          match files.find (String.ofList text) with
          | .ok _ => readFrom []
          | .error _ => return false
      | .readWrite => if canWrite files text then readFrom [] else return false
      | .write =>
          if canWrite files text then
            setChannel channel (some .dropped)
            return true
          else return false
      | .duplicate =>
          match text with
          | ['-'] =>
              setChannel channel none
              return true
          | [digit] =>
              if digit.isDigit then
                match (← get).channels.lookup (digitValue digit) with
                | some target =>
                    setChannel channel (some target)
                    return true
                | none => return false
              else fail
          | _ => fail

/-- Carry out redirections up to the first that is impossible. -/
def applyRedirects (expander : Expander) : List Redirect → Act Bool
  | [] => return true
  | redirect :: redirects => do
      if ← applyRedirect expander redirect then applyRedirects expander redirects
      else return false

/-- Whether redirections change the input. -/
def changesInput (redirects : List Redirect) : Bool :=
  redirects.any fun
    | .mk channel _ _ => channel = 0

/-- Run an action under redirections, which end with it. The result says
whether they are possible; if not, the action does not run. -/
def underRedirects (expander : Expander) (redirects : List Redirect) (action : Act Unit) :
    Act Bool := do
  let before ← get
  let restore : Act Unit :=
    modify fun state =>
      { state with
        channels := before.channels
        input := if changesInput redirects then before.input else state.input }
  if redirects.isEmpty then
    action
    return true
  else if ← applyRedirects expander redirects then
    tryCatch action fun interrupt => do
      restore
      throw interrupt
    restore
    return true
  else
    restore
    setStatus 2
    return false

/-! ## Parts of commands -/

/-- Carry out assignments. -/
def assignAll (expander : Expander) (assignments : List (String × Word)) : Act Unit :=
  assignments.forM fun (name, word) => do
    assign name (← expander.text word)

/-- Run an action with exported variables that end with it. -/
def underAssignments (expander : Expander) (assignments : List (String × Word))
    (action : Act Unit) : Act Unit := do
  let before ← get
  assignments.forM fun (name, word) => do
    assign name (← expander.text word)
    modifyVariable name fun known => { known with isExported := true }
  action
  assignments.forM fun (name, _) =>
    modify fun state => state.setVariable name (before.bindings.lookup name)

/-- End the shell after a failure, if the option for this is on. -/
def checkFailure (isTested : Bool) : Act Unit := do
  let state ← get
  if state.flags.contains 'e' && !isTested && state.status != 0 then throw .exiting

/-- Run a command of the shell that is no part of the language: an error is only
a status. -/
def tolerate (action : Act Unit) : Act Unit :=
  tryCatch action fun
    | .failing => return
    | interrupt => throw interrupt

/-- Run an action inside of a function, which it may end. -/
def inFunction (args : List (List Char)) (action : Act Unit) : Act Unit := do
  let before ← get
  set
    { before with
      params := args
      hidden := [] :: before.hidden
      calls := before.calls + 1
      loops := 0 }
  tryCatch action fun
    | .returning => return
    | interrupt => throw interrupt
  restoreHidden
  modify fun state =>
    { state with params := before.params, calls := before.calls, loops := before.loops }

/-- How deep functions may call each other; a deeper call is an error. -/
def maxCalls : Nat := 1000

/-- Run an action inside of a loop. -/
def inLoop (action : Act Unit) : Act Unit := do
  let before ← get
  set { before with loops := before.loops + 1 }
  let leave : Act Unit := modify fun state => { state with loops := before.loops }
  tryCatch action fun interrupt => do
    leave
    throw interrupt
  leave

/-- Run one round of a loop. The result says whether the loop goes on, and the
status of the loop if it does not. -/
def loopRound (action : Act (Bool × Nat)) : Act (Bool × Nat) :=
  tryCatch action fun
    | .breaking levels => do
        if levels ≤ 1 then return (false, (← get).status)
        else throw (.breaking (levels - 1))
    | .continuing levels => do
        if levels ≤ 1 then return (true, (← get).status)
        else throw (.continuing (levels - 1))
    | interrupt => throw interrupt

/-- Start a program by its name. -/
def startProgram (runText : RunText) (fuel : Nat) (name : List Char) (args : List (List Char)) :
    Act ProcessEnd := do
  match locate (← get) name with
  | .program program => runProgram runText fuel program args
  | .forbidden => return .exited 126
  | .missing => return .exited 127

/-- Replace the shell by a program. -/
def runExec (runText : RunText) (fuel : Nat) (args : List (List Char)) : Act Unit := do
  match args with
  | [] => setStatus 0
  | name :: args =>
      let ending ← startProgram runText fuel name args
      modify fun state => { state with traps := state.ignored }
      match ending with
      | .exited code =>
          setStatus (code % 256)
          throw .exiting
      | .signaled signal => throw (.killed signal)

/-! ## Commands -/

mutual

/-- Run a text as commands. -/
def runScript : Nat → Bool → List Char → Act Unit
  | 0, _, _ => throw .exhausted
  | fuel + 1, isTested, text =>
      match readLine text with
      | .finished => return
      | .invalid => fail
      | .line .nothing rest => runScript fuel isTested rest
      | .line command rest => do
          runCommand fuel isTested command
          runScript fuel isTested rest

/-- Run a command. A command whose status something tests does not end the
shell by failing. -/
def runCommand : Nat → Bool → Command → Act Unit
  | 0, _, _ => throw .exhausted
  | fuel + 1, isTested, command => do
      let runText := runScript fuel false
      let expander : Expander :=
        { takeOutput := fun body => outputOf runText (runCommand fuel false body), fuel }
      let finish : Act Unit := do
        runPending runText
        checkFailure isTested
      if ← hasFlag 'n' then return
      match command with
      | .nothing => setStatus 0
      | .simple assignments words redirects =>
          runSimple fuel isTested expander assignments words redirects
          finish
      | .redirected body redirects =>
          let _ ← underRedirects expander redirects (runCommand fuel isTested body)
      | .subshell body =>
          let start := (← get).fork
          let ending ← runProcess runText start (runCommand fuel isTested body)
          setStatus ending.status
          finish
      | .background body => startJob runText (runCommand fuel false body)
      | .pipeline stages =>
          let ending ← runStages fuel isTested none stages
          setStatus ending.status
          finish
      | .negation body =>
          runCommand fuel true body
          setStatus (if (← get).status = 0 then 1 else 0)
      | .both left right =>
          runCommand fuel true left
          if (← get).status = 0 then runCommand fuel isTested right
      | .either left right =>
          runCommand fuel true left
          if (← get).status != 0 then runCommand fuel isTested right
      | .sequence left right =>
          runCommand fuel isTested left
          runCommand fuel isTested right
      | .branch test yes no =>
          runCommand fuel true test
          if (← get).status = 0 then runCommand fuel isTested yes
          else runCommand fuel isTested no
      | .loop isUntil test body => inLoop (runLoop fuel isTested isUntil test body 0)
      | .each name words? body =>
          let items ←
            match words? with
            | some words => expander.allFields words
            | none => pure (← get).params
          inLoop (runEach fuel isTested name body 0 items)
      | .choice subject cases =>
          let text ← expander.text subject
          runCases fuel isTested expander text cases
      | .define name body =>
          modify fun state =>
            { state with
              functions := (name, body) :: state.functions.filter fun entry => entry.1 != name
              status := 0 }

/-- Run a simple command. -/
def runSimple :
    Nat → Bool → Expander → List (String × Word) → List Word → List Redirect → Act Unit
  | 0, _, _, _, _, _ => throw .exhausted
  | fuel + 1, isTested, expander, assignments, words, redirects => do
      modify fun state => { state with outputStatus? := none }
      match ← expander.commandFields words with
      | [] =>
          let _ ← underRedirects expander redirects do
            assignAll expander assignments
            setStatus ((← get).outputStatus?.getD 0)
      | name :: args =>
          let text := String.ofList name
          if text = "exec" && args.isEmpty then
            assignAll expander assignments
            if ← applyRedirects expander redirects then setStatus 0 else fail
          else if specialBuiltins.contains text then
            let isPossible ← underRedirects expander redirects do
              assignAll expander assignments
              runNamed fuel isTested true name args
            if !isPossible then fail
          else
            let _ ← underRedirects expander redirects
              (underAssignments expander assignments (runNamed fuel isTested true name args))

/-- Run a command by its name. Functions may be left out. -/
def runNamed : Nat → Bool → Bool → List Char → List (List Char) → Act Unit
  | 0, _, _, _, _ => throw .exhausted
  | fuel + 1, isTested, withFunctions, name, args => do
      let runText := runScript fuel false
      let text := String.ofList name
      let state ← get
      let function? := if withFunctions then state.functions.lookup text else none
      let builtin : Act Unit := do
        setStatus (← runBuiltin (runScript fuel isTested) text args)
      if text = "exec" then runExec runText fuel args
      else if specialBuiltins.contains text then builtin
      else
        match function? with
        | some body =>
            if maxCalls ≤ state.calls then fail
            else inFunction args (runCommand fuel isTested body)
        | none =>
            if text = "command" then runBypassing fuel isTested args
            else if regularBuiltins.contains text then tolerate builtin
            else
              let ending ← startProgram runText fuel name args
              setStatus ending.status

/-- Run a command, but no function, or say whether there is such a command. -/
def runBypassing : Nat → Bool → List (List Char) → Act Unit
  | 0, _, _ => throw .exhausted
  | fuel + 1, isTested, args => do
      let (options, rest) := splitOptions args
      let letters := options.flatMap List.tail
      if letters.contains 'v' || letters.contains 'V' then
        setStatus (← runType rest)
      else
        match rest with
        | [] => setStatus 0
        | name :: args => tolerate (runNamed fuel isTested false name args)

/-- Run the stages of a pipeline on an input. -/
def runStages : Nat → Bool → Option (List Char) → List Command → Act ProcessEnd
  | 0, _, _, _ => throw .exhausted
  | _ + 1, _, _, [] => return .exited 0
  | fuel + 1, isTested, input?, [stage] => do
      let state ← get
      let start := { state.fork with input := input?.getD state.input }
      let ending ← runProcess (runScript fuel false) start (runCommand fuel isTested stage)
      modify fun after => { after with input := state.input }
      return ending
  | fuel + 1, isTested, input?, stage :: stages => do
      let (_, output) ←
        runCaptured (runScript fuel false) (some (input?.getD (← get).input))
          (runCommand fuel isTested stage)
      runStages fuel isTested (some output) stages

/-- Run a loop with a condition. -/
def runLoop : Nat → Bool → Bool → Command → Command → Nat → Act Unit
  | 0, _, _, _, _, _ => throw .exhausted
  | fuel + 1, isTested, isUntil, test, body, status => do
      let (goesOn, status) ← loopRound do
        runCommand fuel true test
        if ((← get).status = 0) != isUntil then
          runCommand fuel isTested body
          return (true, (← get).status)
        else return (false, status)
      if goesOn then runLoop fuel isTested isUntil test body status
      else setStatus status

/-- Run a loop over items. -/
def runEach : Nat → Bool → String → Command → Nat → List (List Char) → Act Unit
  | 0, _, _, _, _, _ => throw .exhausted
  | _ + 1, _, _, _, status, [] => setStatus status
  | fuel + 1, isTested, name, body, _, item :: items => do
      assign name item
      let (goesOn, status) ← loopRound do
        runCommand fuel isTested body
        return (true, (← get).status)
      if goesOn then runEach fuel isTested name body status items
      else setStatus status

/-- Run the first case with a pattern that a text matches. -/
def runCases :
    Nat → Bool → Expander → List Char → List (List Word × Command) → Act Unit
  | 0, _, _, _, _ => throw .exhausted
  | _ + 1, _, _, _, [] => setStatus 0
  | fuel + 1, isTested, expander, text, (patterns, body) :: cases => do
      if ← patterns.anyM fun word => do return matchesPattern (← expander.pattern word) text then
        runCommand fuel isTested body
      else runCases fuel isTested expander text cases

end

/-! ## Whole scripts -/

/-- Variables that an environment hands to a shell. -/
def inheritedFrom (environment : Environment) : List (String × List Char) :=
  let given := environment.entries.filterMap fun (name, value) =>
    let chars := bytesOf name
    if isName chars then some (String.ofList chars, bytesOf value) else none
  let defaults := defaultVariables.map fun (name, value) => (name, value.toList)
  given ++ defaults.filter fun entry => !given.any fun other => other.1 = entry.1

/-- Longest text in bytes that a program can be given, as an argument or as a
variable with its name. -/
def maxArgument : Nat := 131071

/-- Why a shell cannot be started on a script, if it cannot. -/
def startFault? (environment : Environment) (script : String) : Option String :=
  if script.contains '\x00' then some "nul byte found in provided data"
  else if maxArgument < script.utf8ByteSize ||
      environment.entries.any fun (name, value) => maxArgument ≤ name.length + value.length then
    some "Argument list too long (os error 7)"
  else none

/-- Greatest depth of a run. -/
def maxDepth : Nat := 200000

/-- Run a script. -/
def run (environment : Environment) (script : String) : CommandResult :=
  let runText := runScript maxDepth false
  let text := bytesOf (Utf8.encode script)
  match (runToEnd runText (runText text) (.start (inheritedFrom environment))).1 with
  | .ok (.exited code) => .exited (Int32.ofNat (code % 256))
  | .ok (.signaled _) => .killed
  | .error _ => .killed

/-- The shell of this program: scripts run by themselves, whatever ran before. -/
def commandShell : CommandShell where
  run environment _ script :=
    match startFault? environment script with
    | some reason => .notStarted reason
    | none => run environment script

end Shell
end ScriptCore
