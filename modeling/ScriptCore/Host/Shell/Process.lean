import ScriptCore.Host.Shell.Expand

/-!
# Processes

Some commands run as processes of their own: their changes to the state of the
shell are lost, and only their output and the way they end remain. A shell that
ends runs the trap for its end first.
-/

namespace ScriptCore
namespace Shell

/-- How to run a text as commands of the same shell. -/
abbrev RunText := List Char → Act Unit

/-- Run the text of a trap. Unless the trap ends the shell, the status stays as
it was; to end it without a status means the status before the trap. -/
def runTrap (runText : RunText) (text : List Char) : Act Unit := do
  let before := (← get).status
  let outer := (← get).trapStatus?
  modify fun state => { state with trapStatus? := some (outer.getD before) }
  runText text
  modify fun state => { state with status := before, trapStatus? := outer }

/-- Run the traps of the signals that have arrived. -/
def runPending (runText : RunText) : Act Unit := do
  let state ← get
  if state.pending.isEmpty then return
  else
    set { state with pending := [] }
    (List.range (maxSignal + 1)).forM fun signal => do
      if state.pending.contains signal then
        match (← get).traps.lookup signal with
        | some (char :: chars) => runTrap runText (char :: chars)
        | _ => return

/-- Run the trap for the end of the shell. -/
def runExitTrap (runText : RunText) : Act Unit := do
  match (← get).traps.lookup 0 with
  | some (char :: chars) =>
      modify fun state =>
        { state with traps := state.traps.filter fun entry => entry.1 != 0 }
      runTrap runText (char :: chars)
  | _ => return

/-- Run an action to its end. -/
def runToEnd (runText : RunText) (action : Act Unit) (state : State) :
    Except Interrupt ProcessEnd × State :=
  let (result, after) := action.run.run state
  match result with
  | .error (.killed signal) => (.ok (.signaled signal), after)
  | .error .exhausted => (.error .exhausted, after)
  | _ =>
      let before := after.status
      match (runExitTrap runText).run.run after with
      | (.ok _, last) => (.ok (.exited last.status), last)
      | (.error .exiting, last) => (.ok (.exited last.status), last)
      | (.error .failing, last) => (.ok (.exited last.status), last)
      | (.error (.killed signal), last) => (.ok (.signaled signal), last)
      | (.error .exhausted, last) => (.error .exhausted, last)
      | (.error _, last) => (.ok (.exited before), last)

/-- Run an action as a process that starts from the given state. -/
def runProcess (runText : RunText) (start : State) (action : Act Unit) : Act ProcessEnd := do
  let (result, last) := runToEnd runText action start
  modify fun state => state.after last
  match result with
  | .ok ending =>
      receivePosted
      return ending
  | .error interrupt => throw interrupt

/-- The channels of a process whose output is taken. -/
def capturing (channels : List (Nat × Channel)) : List (Nat × Channel) :=
  (1, .captured) :: channels.filter fun entry => entry.1 != 1

/-- Run an action as a copy of the shell and take its output. -/
def runCaptured (runText : RunText) (input? : Option (List Char)) (action : Act Unit) :
    Act (ProcessEnd × List Char) := do
  let state ← get
  let start :=
    { state.fork with
      output := []
      channels := capturing state.channels
      input := input?.getD state.input }
  let ending ← runProcess runText start action
  let taken := (← get).output.reverse
  modify fun after =>
    { after with
      output := state.output
      input := if input?.isSome then state.input else after.input }
  return (ending, taken)

/-- A text without the line ends at its end. -/
def withoutLineEnds (chars : List Char) : List Char :=
  (chars.reverse.dropWhile (· = '\n')).reverse

/-- The output of a command for a word. -/
def outputOf (runText : RunText) (action : Act Unit) : Act (List Char) := do
  let (ending, taken) ← runCaptured runText none action
  modify fun state => { state with outputStatus? := some ending.status }
  return withoutLineEnds taken

/-- Start a process in the background. Its signals arrive when the shell takes
time. -/
def startJob (runText : RunText) (action : Act Unit) : Act Unit := do
  let state ← get
  let pid := state.nextPid
  let start := { state.fork with nextPid := pid + 1, input := [], posted := [] }
  set { state with hasSlept := false, posted := [] }
  let (result, last) := runToEnd runText action start
  let ending ← ofExcept result
  modify fun before =>
    let after := before.after last
    let job : Job := { pid, ending, takesTime := after.hasSlept }
    { after with
      posted := state.posted
      delayed := state.delayed ++ last.posted
      jobs := job :: after.jobs
      lastJob? := some pid
      status := 0
      input := state.input
      hasSlept := state.hasSlept }

end Shell
end ScriptCore
