import ScriptCore.Host.Environment
import ScriptCore.Host.Shell.Condition
import ScriptCore.Host.Shell.Signal

/-!
# The state of a shell

A shell has variables, functions, positional parameters, options, traps and
background jobs. Running a command changes the state; it may also interrupt the
commands around it, up to the loop, the function or the shell that it is for.

Only what a script can see later is kept. Output counts only where a command
takes the output of another; all other output is dropped.
-/

namespace ScriptCore
namespace Shell

/-- What stops the commands around a command. -/
inductive Interrupt where
  | breaking (levels : Nat)
  | continuing (levels : Nat)
  | returning
  /-- The shell ends with its status. -/
  | exiting
  /-- An error: a shell ends, but a command that is no part of the language
  only fails. -/
  | failing
  /-- A signal ended this process. -/
  | killed (signal : Nat)
  /-- The script did not come to an end. -/
  | exhausted
deriving DecidableEq

/-- How a process ended. -/
inductive ProcessEnd where
  | exited (code : Nat)
  | signaled (signal : Nat)
deriving DecidableEq

/-- The status that a shell gives to the end of a process. -/
def ProcessEnd.status : ProcessEnd → Nat
  | exited code => code % 256
  | signaled signal => 128 + signal

/-- A variable. One without a value is not set. -/
structure Variable where
  value? : Option (List Char)
  isExported : Bool
  isReadOnly : Bool

/-- A process in the background. -/
structure Job where
  pid : Nat
  ending : ProcessEnd
  /-- Whether it takes time, so that a signal arrives before its end. -/
  takesTime : Bool

/-- Where output goes. -/
inductive Channel where
  | captured
  | dropped
deriving DecidableEq

/-- The state of a shell. -/
structure State where
  bindings : List (String × Variable)
  /-- Variables to bring back at the end of each function that runs. -/
  hidden : List (List (String × Option Variable))
  functions : List (String × Command)
  name : List Char
  params : List (List Char)
  status : Nat
  /-- Letters of the options that are on. -/
  flags : List Char
  traps : List (Nat × List Char)
  /-- Signals whose trap has yet to run. -/
  pending : List Nat
  /-- The status before the trap that runs. -/
  trapStatus? : Option Nat
  /-- Signals for other processes. -/
  posted : List (Nat × Nat)
  /-- Signals of processes in the background that have yet to arrive. -/
  delayed : List (Nat × Nat)
  pid : Nat
  isSubshell : Bool
  nextPid : Nat
  jobs : List Job
  lastJob? : Option Nat
  channels : List (Nat × Channel)
  /-- Captured output, last character first. -/
  output : List Char
  input : List Char
  /-- Number of loops around the current command. -/
  loops : Nat
  /-- Number of functions around the current command. -/
  calls : Nat
  /-- Status of the last command whose output was taken. -/
  outputStatus? : Option Nat
  /-- Whether the process has taken time. -/
  hasSlept : Bool
  files : FileTree

/-- An action of a shell. -/
abbrev Act := ExceptT Interrupt (StateM State)

/-- Set the status. -/
def setStatus (status : Nat) : Act Unit :=
  modify fun state => { state with status }

/-- Stop with an error. -/
def fail {α : Type} : Act α := do
  setStatus 2
  throw .failing

/-- Whether an option is on. -/
def hasFlag (flag : Char) : Act Bool := do
  return (← get).flags.contains flag

/-! ## Variables -/

/-- The value of a variable. -/
def State.valueOf? (state : State) (name : String) : Option (List Char) :=
  (state.bindings.lookup name).bind Variable.value?

/-- Replace what is known of a variable. -/
def State.setVariable (state : State) (name : String) (known? : Option Variable) : State :=
  let others := state.bindings.filter fun entry => entry.1 != name
  { state with
    bindings :=
      match known? with
      | some found => (name, found) :: others
      | none => others }

/-- Give a value to a variable that may change. -/
def assign (name : String) (value : List Char) : Act Unit := do
  let state ← get
  match state.bindings.lookup name with
  | some old =>
      if old.isReadOnly then fail
      else set (state.setVariable name (some { old with value? := some value }))
  | none =>
      let isExported := state.flags.contains 'a'
      set (state.setVariable name (some { value? := some value, isExported, isReadOnly := false }))

/-- Change a variable as a whole. -/
def modifyVariable (name : String) (change : Variable → Variable) : Act Unit :=
  modify fun state =>
    let old :=
      (state.bindings.lookup name).getD
        { value? := none, isExported := false, isReadOnly := false }
    state.setVariable name (some (change old))

/-- Remove a variable that may change. -/
def unsetVariable (name : String) : Act Unit := do
  let state ← get
  match state.bindings.lookup name with
  | some old => if old.isReadOnly then fail else set (state.setVariable name none)
  | none => return

/-- Remember a variable until the end of the function that runs. -/
def hideVariable (name : String) : Act Unit := do
  let state ← get
  match state.hidden with
  | [] => fail
  | scope :: scopes =>
      if scope.any fun entry => entry.1 = name then return
      else
        set { state with hidden := ((name, state.bindings.lookup name) :: scope) :: scopes }

/-- Bring back the variables of the innermost function. -/
def restoreHidden : Act Unit :=
  modify fun state =>
    match state.hidden with
    | [] => state
    | scope :: scopes =>
        scope.foldl (fun state (name, old?) => state.setVariable name old?)
          { state with hidden := scopes }

/-- The characters that separate fields. -/
def State.separators (state : State) : List Char :=
  (state.valueOf? "IFS").getD [' ', '\t', '\n']

/-- The digits of a number. -/
def digitsOf (value : Nat) : List Char :=
  Nat.toDigits 10 value

/-- The text of an integer. -/
def integerText (value : Int) : List Char :=
  if value < 0 then '-' :: digitsOf value.natAbs else digitsOf value.natAbs

/-- Options in the order in which a script sees them. -/
def flagLetters : List Char :=
  ['e', 'f', 'I', 'i', 'm', 'n', 's', 'x', 'v', 'V', 'E', 'C', 'a', 'b', 'u']

/-- The value of a parameter, other than the list of positional ones. -/
def State.parameter? (state : State) (name : String) : Option (List Char) :=
  match name.toList with
  | ['?'] => some (digitsOf state.status)
  | ['$'] => some (digitsOf state.pid)
  | ['!'] => state.lastJob?.map digitsOf
  | ['#'] => some (digitsOf state.params.length)
  | ['-'] => some (flagLetters.filter fun flag => state.flags.contains flag)
  | ['0'] => some state.name
  | chars =>
      if !chars.isEmpty && chars.all Char.isDigit then
        match digitsValue 10 chars with
        | 0 => some state.name
        | position + 1 => state.params[position]?
      else state.valueOf? name

/-! ## Output -/

/-- Write to a channel. It fails if the channel is closed. -/
def write (channel : Nat) (chars : List Char) : Act Bool := do
  let state ← get
  match state.channels.lookup channel with
  | some .captured =>
      set { state with output := chars.reverse ++ state.output }
      return true
  | some .dropped => return true
  | none => return chars.isEmpty

/-! ## Signals -/

/-- Receive a signal. -/
def receive (signal : Nat) : Act Unit := do
  let state ← get
  if signal = killSignal then throw (.killed signal)
  else
    match state.traps.lookup signal with
    | some [] => return
    | some _ => set { state with pending := state.pending ++ [signal] }
    | none => if isFatal signal then throw (.killed signal) else return

/-- Receive the signals that others have sent to this process. -/
def receivePosted : Act Unit := do
  let state ← get
  if state.isSubshell then return
  else
    let (mine, others) := state.posted.partition fun entry => entry.1 = state.pid
    set { state with posted := others }
    mine.forM fun entry => receive entry.2

/-- Take time, in which the signals of processes in the background arrive. -/
def passTime : Act Unit := do
  modify fun state => { state with posted := state.posted ++ state.delayed, delayed := [] }
  receivePosted

/-- Send a signal to a process. The result says whether there is such a
process. -/
def sendSignal (signal pid : Nat) : Act Bool := do
  let state ← get
  if pid = state.pid && !state.isSubshell then
    receive signal
    return true
  else if state.jobs.any fun job => job.pid = pid then
    let strike (job : Job) : Job :=
      if job.pid = pid && job.takesTime && isFatal signal then
        { job with ending := .signaled signal, takesTime := false }
      else job
    set { state with jobs := state.jobs.map strike }
    return true
  else if pid < state.nextPid && 0 < pid then
    set { state with posted := state.posted ++ [(pid, signal)] }
    return true
  else return false

/-! ## New shells -/

/-- The process number of the first shell. -/
def firstPid : Nat := 1000

/-- Variables that a shell has when nothing else sets them. -/
def defaultVariables : List (String × String) :=
  [("PATH", "/usr/local/sbin:/usr/local/bin:/usr/sbin:/usr/bin:/sbin:/bin"), ("HOME", "/root"),
    ("PWD", "/")]

/-- Variables that every shell sets anew. -/
def ownVariables (parent : Nat) : List (String × List Char) :=
  [("IFS", [' ', '\t', '\n']), ("OPTIND", ['1']), ("PPID", digitsOf parent),
    ("PS1", ['$', ' ']), ("PS2", ['>', ' ']), ("PS4", ['+', ' '])]

/-- Channels of a process without redirections. -/
def openChannels : List (Nat × Channel) :=
  [(0, .dropped), (1, .dropped), (2, .dropped)]

/-- The variables of a shell that starts with the given ones. -/
def startVariables (parent : Nat) (inherited : List (String × List Char)) :
    List (String × Variable) :=
  let own := ownVariables parent
  own.map (fun (name, value) =>
      (name, { value? := some value, isExported := false, isReadOnly := false })) ++
    (inherited.filter fun entry => !own.any fun other => other.1 = entry.1).map
      fun (name, value) =>
        (name, { value? := some value, isExported := true, isReadOnly := false })

/-- A shell at its start. -/
def State.start (inherited : List (String × List Char)) : State :=
  { bindings := startVariables 1 inherited
    hidden := []
    functions := []
    name := ['s', 'h']
    params := []
    status := 0
    flags := []
    traps := []
    pending := []
    trapStatus? := none
    posted := []
    delayed := []
    pid := firstPid
    isSubshell := false
    nextPid := firstPid + 1
    jobs := []
    lastJob? := none
    channels := openChannels
    output := []
    input := []
    loops := 0
    calls := 0
    outputStatus? := none
    hasSlept := false
    files := ⟨[]⟩ }

/-- The variables that a process hands down. -/
def State.exported (state : State) : List (String × List Char) :=
  state.bindings.filterMap fun (name, known) =>
    if known.isExported then known.value?.map fun value => (name, value) else none

/-- Traps that a process hands down: those that ignore a signal. -/
def State.ignored (state : State) : List (Nat × List Char) :=
  state.traps.filter fun entry => entry.2.isEmpty && entry.1 != 0

/-- A copy of a shell as a process of its own. -/
def State.fork (state : State) : State :=
  { state with
    traps := state.ignored
    pending := []
    trapStatus? := none
    isSubshell := true
    hasSlept := false }

/-- A new shell that a shell starts. -/
def State.spawn (state : State) (name : List Char) (params : List (List Char)) : State :=
  { State.start state.exported with
    bindings := startVariables state.pid state.exported
    name
    params
    traps := state.ignored
    posted := state.posted
    pid := state.nextPid
    nextPid := state.nextPid + 1
    channels := state.channels
    output := state.output
    input := state.input
    files := state.files }

/-- The state after another process has run: its output stays, and nothing else
that only concerns that process. -/
def State.after (state other : State) : State :=
  { state with
    posted := other.posted
    nextPid := other.nextPid
    output := other.output
    input := other.input
    hasSlept := state.hasSlept || other.hasSlept }

end Shell
end ScriptCore
