import ScriptCore.Host.Shell.Arithmetic

/-!
# Signals

Signals have numbers and names. Most end a process that does not expect them; a
few are ignored, and a few only stop a process for a while.
-/

namespace ScriptCore
namespace Shell

/-- Names of signals with their numbers. Zero stands for the end of a shell. -/
def signalNames : List (String × Nat) :=
  [("EXIT", 0), ("HUP", 1), ("INT", 2), ("QUIT", 3), ("ILL", 4), ("TRAP", 5), ("ABRT", 6),
    ("BUS", 7), ("FPE", 8), ("KILL", 9), ("USR1", 10), ("SEGV", 11), ("USR2", 12), ("PIPE", 13),
    ("ALRM", 14), ("TERM", 15), ("STKFLT", 16), ("CHLD", 17), ("CONT", 18), ("STOP", 19),
    ("TSTP", 20), ("TTIN", 21), ("TTOU", 22), ("URG", 23), ("XCPU", 24), ("XFSZ", 25),
    ("VTALRM", 26), ("PROF", 27), ("WINCH", 28), ("IO", 29), ("PWR", 30), ("SYS", 31),
    ("RTMIN", 34), ("RTMAX", 64)]

/-- Greatest number of a signal. -/
def maxSignal : Nat := 64

/-- The signal that nothing can catch. -/
def killSignal : Nat := 9

/-- The signal of an impossible division. -/
def divisionSignal : Nat := 8

/-- The usual signal of `kill`. -/
def termSignal : Nat := 15

/-- The signal that a text names by number, or by name in either case. -/
def signalOf? (text : List Char) : Option Nat :=
  if !text.isEmpty && text.all Char.isDigit then
    let number := digitsValue 10 text
    if number ≤ maxSignal then some number else none
  else signalNames.lookup (String.ofList (text.map Char.toUpper))

/-- Whether a signal ends a process that does not expect it. -/
def isFatal (signal : Nat) : Bool :=
  signal != 0 && !(17 ≤ signal && signal ≤ 23) && signal != 28

end Shell
end ScriptCore
