import ScriptCore.Number.Binary64
import ScriptCore.OrderedMap.Slot
import ScriptCore.Text.Utf8
import ScriptCore.Value.Tag

/-!
# Programs

The body of a function is a finite program of engine operations. An expression
yields a value; an action is a single operation on the engine; a step is an
action or a block of steps with its own handling of scopes, errors or control.
A user-defined body sees its arguments as variables. The body of a native sees
them as numbered slots that it may overwrite.

Programs are data. They hold unchecked signatures, whose prototypes are read
when the signature is built.
-/

namespace ScriptCore

/-- The natives of the standard library. -/
inductive LibraryFunction where
  | mkkeyarray
  | arrayKeys
  | arrayValues
  | arraySize
  | arrayGet
  | arrayPush
  | arrayDel
  | arrayCompact
  | arrayReverse
  | arrayMerge
  | arraySearch
  | structFields
  | recordMerge
  | throw
  | call
  | equal
  | order
  | typeOf
  | isA
  | safeMode
  | getenv
  | setenv
  | unsetenv
  | system
  | map
  | filter
  | fold
  | foldr
  | takeWhile
  | dropWhile
deriving DecidableEq

/-- The content of a host handle. -/
inductive Handle where
  | text (text : String)
  | number (n : Int64)
deriving DecidableEq

/-- Pure operations on values available to natives. An argument of another tag
counts as zero, as no string, or as no record. -/
inductive Primitive where
  | add
  | less
  | concat
  | isRecord
  | field (name : String)
deriving DecidableEq

mutual

/-- An expression, evaluated from left to right. -/
inductive Expr where
  | void
  | bool (value : Bool)
  | int (value : Int64)
  | float (value : Binary64)
  | str (bytes : Bytes)
  | array (slots : List (Slot Expr))
  | record (className : Option String) (fields : List (Slot Expr)) (methods : List SignatureSpec)
  | function (first : SignatureSpec) (others : List SignatureSpec)
  | resource (kind : String) (handle : Handle) (hasDestructor : Bool)
  | var (name : String)
  | call (name : String) (args : List Expr)
  | slot (index : Nat)
  | slots
  | slotCount
  | primitive (operation : Primitive) (args : List Expr)
  | fault (message : String)

/-- An unchecked signature. -/
inductive SignatureSpec where
  | mk (name prototype : String) (returns : Char) (implementation : Implementation)

/-- What runs when a signature is called: a library native, a native given by a
program with its declared argument count, or a user-defined body with its
parameter names. -/
inductive Implementation where
  | library (function : LibraryFunction) (argCount : Nat)
  | native (argCount : Nat) (body : List Step)
  | user (params : List String) (body : List Step)

/-- A change to the value of a variable, given an operand. -/
inductive Change where
  | pushBytes
  | append
  | insert (key : String)
  | setAt (index : Nat)
  | deleteAt (index : Nat)
  | erase (key : String)
  | setField (name : String)
  | removeField (name : String)
  | addMethod (signature : SignatureSpec)

/-- A single operation on the engine. -/
inductive Action where
  | value (value : Expr)
  | display (value : Expr)
  | json (value : Expr)
  | truthy (value : Expr)
  | deepCopy (value : Expr)
  | compare (left right : Expr)
  | field (value : Expr) (name : String)
  | handleText (value : Expr)
  | handleNumber (value : Expr)
  | handleAdd (value : Expr) (amount : Int64)
  | mutate (target : String) (operand : Expr) (change : Change)
  | enter
  | leave
  | define (name : String) (value : Expr)
  | assign (name : String) (value : Expr)
  | lookup (name : String)
  | names
  | scope (index : Nat)
  | globalStats
  | register (signature : SignatureSpec)
  | unregister (name : String)
  | link (name : String) (tag : Tag) (value : Expr) (cell : String)
  | unlink (name : String)
  | cellGet (cell : String)
  | cellSet (cell : String) (value : Expr)
  | defineClass (name : String) (parent : Option String) (fields : List (String × Expr))
      (methods : List SignatureSpec) (constructor : Option SignatureSpec)
  | removeClass (name : String)
  | classInfo (name : String)
  | classIsA (name target : String)
  | functions
  | install
  | call (name : String) (args : List Expr)
  | callValue (callee : Expr) (args : List Expr)
  | callSignature (name : String) (index : Nat) (args : List Expr)
  | method (target name : String) (args : List Expr)
  | instantiate (className : String) (args : List Expr)
  | throw (payload : Expr)
  | exceptionState
  | nonfatal (message : Expr) (default : Option Expr)
  | reports
  | takeReports
  | safeModeGet
  | safeModeSet (flag : Bool)
  | privileged (operation : String)
  | unload (name : String)
  | modules
  | setEvaluator
  | hasEvaluator
  | debug
  | setSlot (index : Nat) (value : Expr)
  | takeSlot (index : Nat)
  | setSlotField (index : Nat) (name : String) (value : Expr)
  | log (values : Expr)
  | notCallable (typeName : String)

/-- An action, or a block of steps. -/
inductive Step where
  | action (action : Action)
  | scoped (body : List Step)
  | attempt (body : List Step)
  | run (body : List Step)
  | wrap (body : List Step)
  | load (name : String) (init : List Step)
  | loop (count : Nat) (body : List Step)
  | branch (condition : Expr) (onTrue onFalse : List Step)

end

instance : Inhabited Handle := ⟨.number 0⟩

instance : Inhabited Expr := ⟨.void⟩

instance : Inhabited SignatureSpec := ⟨.mk "" "" 'v' (.user [] [])⟩

instance : Inhabited Change := ⟨.append⟩

instance : Inhabited Action := ⟨.value .void⟩

instance : Inhabited Step := ⟨.action default⟩

/-- The body of a function. -/
abbrev Program := List Step

end ScriptCore
