import ScriptCore.Value.Tag

/-!
# Prototypes

A prototype describes the arguments of a function, one character for each
position: `?` takes anything, a lowercase type letter records the expected tag,
an uppercase one forces it, and a final `*` takes all further arguments.
-/

namespace ScriptCore

/-- What a prototype says about one position. -/
inductive ParamSpec where
  | any
  | rest
  | hint (tag : Tag)
  | forced (tag : Tag)
deriving DecidableEq

namespace ParamSpec

/-- The character of a position. -/
def code : ParamSpec → Char
  | any => '?'
  | rest => '*'
  | hint tag => tag.code
  | forced tag => tag.code.toUpper

/-- The declared tag of a position. -/
def expected? : ParamSpec → Option Tag
  | any => none
  | rest => none
  | hint tag => some tag
  | forced tag => some tag

/-- The demand on a position in words. -/
def describe : ParamSpec → String
  | any => "Any"
  | rest => "Rest"
  | hint tag => "Hint(" ++ tag.word ++ ")"
  | forced tag => "Forced(" ++ tag.word ++ ")"

end ParamSpec

/-- Why a prototype is refused. -/
inductive PrototypeFault where
  | restNotLast
  | unknownCode (code : Char)
deriving DecidableEq

namespace PrototypeFault

/-- The reason in words. -/
def message : PrototypeFault → String
  | restNotLast => "`*` must be the last position"
  | unknownCode code => "unknown type code `" ++ String.singleton code ++ "`"

end PrototypeFault

/-- A checked prototype. -/
structure Prototype where
  params : List ParamSpec
deriving DecidableEq

namespace Prototype

/-- Read one position, given whether it is the last. -/
def parseParam (code : Char) (isLast : Bool) : Except PrototypeFault ParamSpec :=
  if code = '?' then .ok .any
  else if code = '*' then if isLast then .ok .rest else .error .restNotLast
  else match Tag.ofCode? code with
    | some tag => .ok (if code.isUpper then .forced tag else .hint tag)
    | none => .error (.unknownCode code)

/-- Read the positions in order, up to the first fault. -/
def parseParams : List Char → Except PrototypeFault (List ParamSpec)
  | [] => .ok []
  | code :: codes => do
      let param ← parseParam code codes.isEmpty
      let params ← parseParams codes
      return param :: params

/-- Read a prototype. -/
def parse (source : String) : Except PrototypeFault Prototype :=
  (parseParams source.toList).map Prototype.mk

/-- The text of a prototype. -/
def toText (prototype : Prototype) : String :=
  String.ofList (prototype.params.map ParamSpec.code)

/-- The position of `*`. -/
def restPosition? (prototype : Prototype) : Option Nat :=
  prototype.params.findIdx? fun param => param == .rest

/-- What the prototype says about an argument position; positions beyond it
take anything. -/
def specAt (prototype : Prototype) (position : Nat) : ParamSpec :=
  match prototype.restPosition? with
  | some rest =>
      if rest ≤ position then .rest else prototype.params.getD position .any
  | none => prototype.params.getD position .any

end Prototype

/-- Accepted argument counts. -/
inductive Arity where
  | exactly (count : Nat)
  | atLeast (count : Nat)
deriving DecidableEq

namespace Arity

/-- Whether an argument count is accepted. -/
def accepts : Arity → Nat → Bool
  | exactly count, argc => argc == count
  | atLeast count, argc => decide (count ≤ argc)

/-- The count in words. -/
def toText : Arity → String
  | exactly count => toString count
  | atLeast count => "at least " ++ toString count

end Arity
end ScriptCore
