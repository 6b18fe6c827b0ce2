/-!
# Command-line arguments

Options may stand before and after the name of a subcommand; a value given after
it wins. In a call, options are read up to the first argument of the function.
That one and all after it are literal, and so is whatever follows a double dash.

Arguments are read in order: the first fault, or the first request for help or
for the version, decides.
-/

namespace ScriptCore
namespace Arguments

/-- Subcommands. -/
inductive Subcommand where
  | call
  | functions
  | shell
  | help
deriving DecidableEq

namespace Subcommand

/-- The subcommand of a name. -/
def ofName? (name : String) : Option Subcommand :=
  if name = "call" then some call
  else if name = "functions" then some functions
  else if name = "repl" then some shell
  else if name = "help" then some help
  else none

end Subcommand

/-- What to do. -/
inductive Command where
  | call (name : String) (args : List String) (asJson : Bool)
  | functions
  | shell

/-- Options given at one level. -/
structure Options where
  config : Option String := none
  safeMode : Bool := false
  verbose : Bool := false
  json : Bool := false

/-- A complete request. -/
structure Invocation where
  config : Option String
  safeMode : Bool
  verbose : Bool
  command : Command

/-- The outcome of reading the arguments. -/
inductive Request where
  | invoke (invocation : Invocation)
  | version
  | help (topic : Option Subcommand)
  | usage

/-- Where arguments are being read: before the subcommand, before the function
name of a call, after it, or after a subcommand without arguments. -/
inductive Position where
  | top
  | beforeName
  | afterName
  | bare
deriving DecidableEq

/-! ## Options -/

/-- Options without a value. -/
inductive Flag where
  | safeMode
  | verbose
  | json
  | help
  | version
deriving DecidableEq

/-- The flag of a long option at a position. -/
def longFlag? (position : Position) (name : String) : Option Flag :=
  if name = "safe-mode" then some .safeMode
  else if name = "verbose" then some .verbose
  else if name = "help" then some .help
  else if name = "version" && position == .top then some .version
  else if name = "json" && (position == .beforeName || position == .afterName) then some .json
  else none

/-- The flag of a short option at a position. -/
def shortFlag? (position : Position) (letter : Char) : Option Flag :=
  if letter = 'v' then some .verbose
  else if letter = 'h' then some .help
  else if letter = 'V' && position == .top then some .version
  else none

/-- One argument in the light of its position. -/
inductive Item where
  | flag (flag : Flag)
  | flags (letters : List Char)
  | config
  | configValue (path : String)
  | separator
  | word
  | fault

/-- Read a long option. After the function name, an unknown one is a word. -/
def longItem (position : Position) (body : List Char) : Item :=
  let name := String.ofList (body.takeWhile (· != '='))
  let rest := body.dropWhile (· != '=')
  if name = "config" then
    match rest with
    | [] => .config
    | _ :: value => .configValue (String.ofList value)
  else
    match longFlag? position name with
    | some flag => if rest.isEmpty then .flag flag else .fault
    | none => if position == .afterName then .word else .fault

/-- Read a group of short options. After the function name, a group with an
unknown letter is a word. -/
def shortItem (position : Position) (letters : List Char) : Item :=
  if position == .afterName && letters.any (fun letter => (shortFlag? position letter).isNone) then
    .word
  else .flags letters

/-- Read one argument. -/
def item (position : Position) (arg : String) : Item :=
  match arg.toList with
  | ['-', '-'] => .separator
  | '-' :: '-' :: body => longItem position body
  | '-' :: letter :: letters => shortItem position (letter :: letters)
  | _ => .word

/-- Whether a path was given, and only once. -/
def setConfig (options : Options) (path : String) : Option Options :=
  if path.isEmpty || options.config.isSome then none
  else some { options with config := some path }

/-- Set a flag, once; help and version end the reading. -/
def setFlag (topic : Option Subcommand) (options : Options) (flag : Flag) :
    Except Request Options :=
  match flag with
  | .safeMode => if options.safeMode then .error .usage else .ok { options with safeMode := true }
  | .verbose => if options.verbose then .error .usage else .ok { options with verbose := true }
  | .json => if options.json then .error .usage else .ok { options with json := true }
  | .help => .error (.help topic)
  | .version => .error .version

/-- Set the flags of a group, from left to right. -/
def setFlags (position : Position) (topic : Option Subcommand) (options : Options) :
    List Char → Except Request Options
  | [] => .ok options
  | letter :: letters =>
      match shortFlag? position letter with
      | none => .error .usage
      | some flag => do
          let next ← setFlag topic options flag
          setFlags position topic next letters

/-! ## Levels -/

/-- Read options up to the first word or separator. The result has the options
and the arguments from there on. -/
def readOptions (position : Position) (topic : Option Subcommand) (options : Options) :
    List String → Except Request (Options × List String)
  | [] => .ok (options, [])
  | arg :: rest =>
      match item position arg with
      | .word => .ok (options, arg :: rest)
      | .separator => .ok (options, arg :: rest)
      | .fault => .error .usage
      | .flag flag => do
          let next ← setFlag topic options flag
          readOptions position topic next rest
      | .flags letters => do
          let next ← setFlags position topic options letters
          readOptions position topic next rest
      | .configValue path =>
          match setConfig options path with
          | some next => readOptions position topic next rest
          | none => .error .usage
      | .config =>
          match rest with
          | path :: rest =>
              match item position path, setConfig options path with
              | .word, some next => readOptions position topic next rest
              | _, _ => .error .usage
          | [] => .error .usage

/-- Drop a double dash at the start. -/
def dropSeparator : List String → List String
  | "--" :: rest => rest
  | args => args

/-- The name and the arguments of a call, with its options. -/
def readCall (args : List String) : Except Request (Options × Command) := do
  let (options, rest) ← readOptions .beforeName (some .call) {} args
  match rest with
  | "--" :: name :: args => return (options, .call name args options.json)
  | "--" :: [] => .error .usage
  | [] => .error .usage
  | name :: rest =>
      let (options, args) ← readOptions .afterName (some .call) options rest
      return (options, .call name (dropSeparator args) options.json)

/-- A subcommand without arguments, with its options. -/
def readBare (topic : Subcommand) (command : Command) (args : List String) :
    Except Request (Options × Command) := do
  let (options, rest) ← readOptions .bare (some topic) {} args
  match dropSeparator rest with
  | [] => return (options, command)
  | _ => .error .usage

/-- The topic of a request for help. -/
def readHelp (args : List String) : Request :=
  match args with
  | [] => .help none
  | [name] =>
      match Subcommand.ofName? name with
      | some topic => .help (some topic)
      | none => .usage
  | _ => .usage

/-- Read a subcommand and its arguments. -/
def readSubcommand (name : String) (args : List String) : Except Request (Options × Command) :=
  match Subcommand.ofName? name with
  | some .call => readCall args
  | some .functions => readBare .functions .functions args
  | some .shell => readBare .shell .shell args
  | some .help => .error (readHelp args)
  | none => .error .usage

/-- Read all arguments. -/
def readAll (args : List String) : Except Request Invocation := do
  let (outer, rest) ← readOptions .top none {} args
  match rest with
  | [] => .error .usage
  | name :: rest =>
      let (inner, command) ← readSubcommand name rest
      return {
        config := inner.config.or outer.config
        safeMode := inner.safeMode || outer.safeMode
        verbose := inner.verbose || outer.verbose
        command }

/-- The request that the arguments make. -/
def parse (args : List String) : Request :=
  match readAll args with
  | .ok invocation => .invoke invocation
  | .error request => request

end Arguments
end ScriptCore
