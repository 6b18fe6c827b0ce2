import ScriptCore.Config.Document
import ScriptCore.Config.Settings
import ScriptCore.Console.AppError
import ScriptCore.Console.Application
import ScriptCore.Console.Arguments
import ScriptCore.Console.Line
import ScriptCore.Console.Prompt
import ScriptCore.Console.Session
import ScriptCore.Console.Token
import ScriptCore.Console.Usage
import ScriptCore.Engine.Argument
import ScriptCore.Engine.Call
import ScriptCore.Engine.Dispatch
import ScriptCore.Engine.Handler
import ScriptCore.Engine.Registry
import ScriptCore.Engine.SafeMode
import ScriptCore.Engine.State
import ScriptCore.Error
import ScriptCore.Host.Command
import ScriptCore.Host.Environment
import ScriptCore.Host.FileTree
import ScriptCore.Host.Resource
import ScriptCore.Host.Shell.Arithmetic
import ScriptCore.Host.Shell.Builtin
import ScriptCore.Host.Shell.Condition
import ScriptCore.Host.Shell.Expand
import ScriptCore.Host.Shell.Format
import ScriptCore.Host.Shell.Pattern
import ScriptCore.Host.Shell.Process
import ScriptCore.Host.Shell.Program
import ScriptCore.Host.Shell.Reader
import ScriptCore.Host.Shell.Run
import ScriptCore.Host.Shell.Signal
import ScriptCore.Host.Shell.State
import ScriptCore.Host.Shell.Syntax
import ScriptCore.Json.Basic
import ScriptCore.Json.Numeral
import ScriptCore.Json.Parser
import ScriptCore.Json.Printer
import ScriptCore.Library.Arrays
import ScriptCore.Library.Iteration
import ScriptCore.Library.Natives
import ScriptCore.Main
import ScriptCore.Number.Binary64
import ScriptCore.Number.Layout
import ScriptCore.Number.Leading
import ScriptCore.Number.Shortest
import ScriptCore.OrderedMap.Basic
import ScriptCore.OrderedMap.Slot
import ScriptCore.OrderedMap.Spread
import ScriptCore.Program.Eval
import ScriptCore.Program.Syntax
import ScriptCore.Proofs.Engine.Actions
import ScriptCore.Proofs.Engine.Balance
import ScriptCore.Proofs.Engine.Edits
import ScriptCore.Proofs.Engine.Enforcement
import ScriptCore.Proofs.Engine.Frames
import ScriptCore.Proofs.Engine.Handlers
import ScriptCore.Proofs.Engine.Receiver
import ScriptCore.Proofs.Engine.ScopeChanges
import ScriptCore.Proofs.OrderedMap.Buckets
import ScriptCore.Proofs.OrderedMap.Coherence
import ScriptCore.Proofs.OrderedMap.History
import ScriptCore.Proofs.OrderedMap.Keys
import ScriptCore.Proofs.OrderedMap.SlotList
import ScriptCore.Proofs.Scope.Names
import ScriptCore.Record.Basic
import ScriptCore.Record.Class
import ScriptCore.Scope.Stack
import ScriptCore.Signature.Basic
import ScriptCore.Signature.Bind
import ScriptCore.Signature.Prototype
import ScriptCore.Suggest.Distance
import ScriptCore.Text.Backspace
import ScriptCore.Text.Blank
import ScriptCore.Text.BreakClass
import ScriptCore.Text.Extender
import ScriptCore.Text.Grapheme
import ScriptCore.Text.Hidden
import ScriptCore.Text.Quoted
import ScriptCore.Text.Utf8
import ScriptCore.Value.Basic
import ScriptCore.Value.Coerce
import ScriptCore.Value.Compare
import ScriptCore.Value.Display
import ScriptCore.Value.Equal
import ScriptCore.Value.Json
import ScriptCore.Value.Tag
import ScriptCore.Proofs.OrderedMap.Values
import ScriptCore.Proofs.Text.Utf8
import ScriptCore.Proofs.Value.Nested
import ScriptCore.Proofs.Value.JsonInverse
import ScriptCore.Proofs.Json.Reading
import ScriptCore.Proofs.Console.PrintedArguments
import ScriptCore.Proofs.Engine.Hosts
import ScriptCore.Proofs.Engine.SafeMode
import ScriptCore.Proofs.Engine.Reachable
import ScriptCore.Proofs.Program.Tame
import ScriptCore.Proofs.Value.Tame
import ScriptCore.Proofs.Engine.Tame
import ScriptCore.Proofs.Engine.Agreement
import ScriptCore.Proofs.Engine.Twins
import ScriptCore.Proofs.Engine.CallDepth
import ScriptCore.Proofs.Value.Ordering
import ScriptCore.Proofs.Engine.Modules
import ScriptCore.Proofs.Engine.Entries
import ScriptCore.Proofs.Engine.Calm
import ScriptCore.Proofs.Program.Disciplines
import ScriptCore.Proofs.Engine.Exceptions
import ScriptCore.Proofs.Engine.Builtins
import ScriptCore.Proofs.Console.Sessions
import ScriptCore.Proofs.OrderedMap.Merge
import ScriptCore.Proofs.Text.Quoted
import ScriptCore.Proofs.Value.MemberNames
import ScriptCore.Proofs.Value.StrictEquality
import ScriptCore.Proofs.Value.UnambiguousDisplay
import ScriptCore.Proofs.Signature.Binding
import ScriptCore.Proofs.OrderedMap.Dictionaries
import ScriptCore.Proofs.Record.Merging
import ScriptCore.Proofs.Record.Inheritance
import ScriptCore.Proofs.Engine.FrameVariables
import ScriptCore.Proofs.Engine.MethodCalls
import ScriptCore.Proofs.Scope.Answers
import ScriptCore.Proofs.Scope.Reachable
import ScriptCore.Proofs.Scope.Assignment
import ScriptCore.Proofs.Engine.Overloads
import ScriptCore.Proofs.Engine.Parameters
import ScriptCore.Proofs.Engine.SurplusArguments
import ScriptCore.Proofs.OrderedMap.Compaction
import ScriptCore.Proofs.Library.Visits
import ScriptCore.Proofs.Library.HigherOrder
import ScriptCore.Proofs.Engine.CallerSlots
import ScriptCore.Proofs.Library.Folds
import ScriptCore.Proofs.Scope.Tidy
import ScriptCore.Proofs.Engine.Unbinding
import ScriptCore.Proofs.Library.Addresses
import ScriptCore.Proofs.Number.IntegerNumerals
import ScriptCore.Proofs.Number.FloatGrammar
import ScriptCore.Proofs.Number.FloatNumerals
import ScriptCore.Proofs.Console.Tokens
import ScriptCore.Proofs.Signature.Prototypes
import ScriptCore.Proofs.Suggest.EditDistance
import ScriptCore.Proofs.Suggest.Nearest
import ScriptCore.Proofs.Library.Fallbacks
import ScriptCore.Proofs.Library.Demands
import ScriptCore.Proofs.Library.NativeCalls
import ScriptCore.Proofs.Engine.Journals
import ScriptCore.Proofs.Library.Journals
import ScriptCore.Proofs.Program.Journals
import ScriptCore.Proofs.Console.Reports
import ScriptCore.Proofs.OrderedMap.TableOrder
import ScriptCore.Proofs.Scope.VisibleNames
