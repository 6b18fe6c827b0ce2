import ScriptCore.Host.Shell.Syntax

/-!
# Arithmetic expressions

Expressions over 64-bit integers with the operators of C: an expression is read
into a tree, and the tree is evaluated with the values of variables. Every
result wraps around. Assignments are carried out in order, and a part that
decides nothing is not evaluated.

Numerals may be decimal, octal after a zero, or hexadecimal after `0x`.
-/

namespace ScriptCore
namespace Shell

/-! ## Integers -/

/-- The integer of 64 bits that an integer wraps around to. -/
def wrap64 (value : Int) : Int :=
  Int.bmod value 18446744073709551616

def maxInt64 : Int := 9223372036854775807

def minInt64 : Int := -9223372036854775808

/-- The value of a digit up to the base 16. -/
def digitValue (char : Char) : Nat :=
  if char.isDigit then char.toNat - '0'.toNat
  else if 'a' ≤ char && char ≤ 'f' then char.toNat - 'a'.toNat + 10
  else if 'A' ≤ char && char ≤ 'F' then char.toNat - 'A'.toNat + 10
  else 16

/-- The digits of a numeral in a base, and the rest. -/
def readDigits (base : Nat) (chars : List Char) : List Char × List Char :=
  let digits := chars.takeWhile fun char => digitValue char < base
  (digits, chars.drop digits.length)

/-- The value of digits in a base. -/
def digitsValue (base : Nat) (digits : List Char) : Nat :=
  digits.foldl (fun value digit => value * base + digitValue digit) 0

/-- Read a numeral whose base shows in its first characters. -/
def readNumeral (chars : List Char) : Nat × List Char :=
  let inBase (base : Nat) (chars : List Char) : Nat × List Char :=
    let (digits, rest) := readDigits base chars
    (digitsValue base digits, rest)
  match chars with
  | '0' :: mark :: digit :: rest =>
      if (mark = 'x' || mark = 'X') && digitValue digit < 16 then inBase 16 (digit :: rest)
      else inBase 8 chars
  | '0' :: _ => inBase 8 chars
  | _ => inBase 10 chars

def isSpace (char : Char) : Bool :=
  char = ' ' || (0x09 ≤ char.toNat && char.toNat ≤ 0x0D)

/-- The integer that a text writes, between blanks and with an optional sign.
Without a fixed base its first characters show the base, and a text of blanks
is zero. There is no result for other text or an integer beyond 64 bits. -/
def integerOf? (isDecimal : Bool) (text : List Char) : Option Int :=
  let start := text.dropWhile isSpace
  let (isNegative, body) :=
    match start with
    | '-' :: rest => (true, rest)
    | '+' :: rest => (false, rest)
    | _ => (false, start)
  if (body.head?.map Char.isDigit).getD false then
    let (magnitude, rest) :=
      if isDecimal then
        let (digits, rest) := readDigits 10 body
        (digitsValue 10 digits, rest)
      else readNumeral body
    let value : Int := if isNegative then -(magnitude : Int) else magnitude
    if rest.all isSpace && minInt64 ≤ value && value ≤ maxInt64 then some value else none
  else if !isDecimal && text.all isSpace then some 0
  else none

/-- The natural number that an argument writes, if it fits into 31 bits. -/
def countOf? (text : List Char) : Option Nat := do
  let value ← integerOf? true text
  if 0 ≤ value && value ≤ 2147483647 then some value.toNat else none

/-! ## Expressions -/

/-- An operator between two values. -/
inductive Operator where
  | multiply
  | divide
  | remainder
  | add
  | subtract
  | shiftLeft
  | shiftRight
  | less
  | lessEqual
  | greater
  | greaterEqual
  | equal
  | notEqual
  | bitAnd
  | bitXor
  | bitOr
deriving DecidableEq

/-- An operator before a value. -/
inductive UnaryOperator where
  | plus
  | minus
  | notZero
  | complement
deriving DecidableEq

/-- An arithmetic expression. -/
inductive ArithExpr where
  | number (value : Int)
  | named (name : String)
  | unary (operator : UnaryOperator) (operand : ArithExpr)
  | binary (operator : Operator) (left right : ArithExpr)
  | both (left right : ArithExpr)
  | either (left right : ArithExpr)
  | conditional (test yes no : ArithExpr)
  /-- Set a variable to a value, or to its value combined with another. -/
  | assign (name : String) (operator? : Option Operator) (value : ArithExpr)

/-- A token of an expression. -/
inductive ArithToken where
  | number (value : Int)
  | name (name : String)
  | operator (operator : Operator)
  | assignment (operator? : Option Operator)
  | notZero
  | complement
  | both
  | either
  | question
  | colon
  | opening
  | closing
deriving DecidableEq

/-- Spellings of the tokens that are no names or numbers; of two that fit, the
first counts. -/
def arithSpellings : List (List Char × ArithToken) :=
  [(['<', '<', '='], .assignment (some .shiftLeft)),
    (['>', '>', '='], .assignment (some .shiftRight)),
    (['<', '<'], .operator .shiftLeft), (['>', '>'], .operator .shiftRight),
    (['<', '='], .operator .lessEqual), (['>', '='], .operator .greaterEqual),
    (['=', '='], .operator .equal), (['!', '='], .operator .notEqual),
    (['&', '&'], .both), (['|', '|'], .either),
    (['*', '='], .assignment (some .multiply)), (['/', '='], .assignment (some .divide)),
    (['%', '='], .assignment (some .remainder)), (['+', '='], .assignment (some .add)),
    (['-', '='], .assignment (some .subtract)), (['&', '='], .assignment (some .bitAnd)),
    (['^', '='], .assignment (some .bitXor)), (['|', '='], .assignment (some .bitOr)),
    (['='], .assignment none), (['<'], .operator .less), (['>'], .operator .greater),
    (['*'], .operator .multiply), (['/'], .operator .divide), (['%'], .operator .remainder),
    (['+'], .operator .add), (['-'], .operator .subtract), (['&'], .operator .bitAnd),
    (['^'], .operator .bitXor), (['|'], .operator .bitOr), (['!'], .notZero),
    (['~'], .complement), (['?'], .question), ([':'], .colon), (['('], .opening),
    ([')'], .closing)]

/-- The tokens of an expression. A numeral beyond 64 bits stands for the
greatest integer. -/
def arithTokens : Nat → List Char → Option (List ArithToken)
  | 0, _ => none
  | _ + 1, [] => some []
  | fuel + 1, char :: chars =>
      if char = ' ' || char = '\t' || char = '\n' then arithTokens fuel chars
      else if char.isDigit then do
        let (value, rest) := readNumeral (char :: chars)
        let tokens ← arithTokens fuel rest
        some (.number (min value maxInt64) :: tokens)
      else if isNameStart char then do
        let name := (char :: chars).takeWhile isNameChar
        let tokens ← arithTokens fuel ((char :: chars).drop name.length)
        some (.name (String.ofList name) :: tokens)
      else do
        let (spelling, token) ←
          arithSpellings.find? fun (spelling, _) => spelling.isPrefixOf (char :: chars)
        let tokens ← arithTokens fuel ((char :: chars).drop spelling.length)
        some (token :: tokens)

/-- How tightly an operator binds; the tightest has the least level. -/
def Operator.level : Operator → Nat
  | multiply => 0
  | divide => 0
  | remainder => 0
  | add => 1
  | subtract => 1
  | shiftLeft => 2
  | shiftRight => 2
  | less => 3
  | lessEqual => 3
  | greater => 3
  | greaterEqual => 3
  | equal => 4
  | notEqual => 4
  | bitAnd => 5
  | bitXor => 6
  | bitOr => 7

mutual

/-- Read an assignment or a weaker expression. -/
def readAssignment : Nat → List ArithToken → Option (ArithExpr × List ArithToken)
  | 0, _ => none
  | fuel + 1, .name name :: .assignment operator? :: rest => do
      let (value, rest) ← readAssignment fuel rest
      some (.assign name operator? value, rest)
  | fuel + 1, tokens => readConditional fuel tokens

/-- Read a conditional expression. -/
def readConditional : Nat → List ArithToken → Option (ArithExpr × List ArithToken)
  | 0, _ => none
  | fuel + 1, tokens => do
      let (test, rest) ← readEither fuel tokens
      match rest with
      | .question :: rest =>
          let (yes, rest) ← readAssignment fuel rest
          match rest with
          | .colon :: rest =>
              let (no, rest) ← readConditional fuel rest
              some (.conditional test yes no, rest)
          | _ => none
      | _ => some (test, rest)

/-- Read a disjunction. -/
def readEither : Nat → List ArithToken → Option (ArithExpr × List ArithToken)
  | 0, _ => none
  | fuel + 1, tokens => do
      let (left, rest) ← readBoth fuel tokens
      match rest with
      | .either :: rest =>
          let (right, rest) ← readEither fuel rest
          some (.either left right, rest)
      | _ => some (left, rest)

/-- Read a conjunction. -/
def readBoth : Nat → List ArithToken → Option (ArithExpr × List ArithToken)
  | 0, _ => none
  | fuel + 1, tokens => do
      let (left, rest) ← readLevel fuel 8 tokens
      match rest with
      | .both :: rest =>
          let (right, rest) ← readBoth fuel rest
          some (.both left right, rest)
      | _ => some (left, rest)

/-- Read an expression whose operators stand below a level. -/
def readLevel : Nat → Nat → List ArithToken → Option (ArithExpr × List ArithToken)
  | 0, _, _ => none
  | fuel + 1, 0, tokens => readOperand fuel tokens
  | fuel + 1, level + 1, tokens => do
      let (left, rest) ← readLevel fuel level tokens
      readOperators fuel level left rest

/-- Read more operands of one level, from the left. -/
def readOperators : Nat → Nat → ArithExpr → List ArithToken →
    Option (ArithExpr × List ArithToken)
  | 0, _, _, _ => none
  | fuel + 1, level, left, tokens =>
      match tokens with
      | .operator operator :: rest =>
          if operator.level = level then do
            let (right, rest) ← readLevel fuel level rest
            readOperators fuel level (.binary operator left right) rest
          else some (left, tokens)
      | _ => some (left, tokens)

/-- Read an operand. -/
def readOperand : Nat → List ArithToken → Option (ArithExpr × List ArithToken)
  | 0, _ => none
  | fuel + 1, tokens =>
      match tokens with
      | .number value :: rest => some (.number value, rest)
      | .name name :: rest => some (.named name, rest)
      | .opening :: rest => do
          let (inner, rest) ← readAssignment fuel rest
          match rest with
          | .closing :: rest => some (inner, rest)
          | _ => none
      | .operator .add :: rest => do
          let (operand, rest) ← readOperand fuel rest
          some (.unary .plus operand, rest)
      | .operator .subtract :: rest => do
          let (operand, rest) ← readOperand fuel rest
          some (.unary .minus operand, rest)
      | .notZero :: rest => do
          let (operand, rest) ← readOperand fuel rest
          some (.unary .notZero operand, rest)
      | .complement :: rest => do
          let (operand, rest) ← readOperand fuel rest
          some (.unary .complement operand, rest)
      | _ => none

end

/-- The expression that a text writes. -/
def ArithExpr.ofText? (text : List Char) : Option ArithExpr := do
  let tokens ← arithTokens (text.length + 1) text
  let (expression, rest) ← readAssignment (16 * tokens.length + 16) tokens
  if rest.isEmpty then some expression else none

/-! ## Evaluation -/

/-- Why an expression has no value. -/
inductive ArithFault where
  /-- A variable does not hold an integer, or a divisor is zero. -/
  | invalid
  /-- The quotient of the least integer and minus one. -/
  | overflow
deriving DecidableEq

/-- One for a condition that holds, and zero otherwise. -/
def truth (condition : Bool) : Int :=
  if condition then 1 else 0

/-- Combine the bits of two integers of 64 bits. -/
def combineBits (combine : Nat → Nat → Nat) (left right : Int) : Int :=
  let bitsOf (value : Int) : Nat := (value % 18446744073709551616).toNat
  wrap64 (combine (bitsOf left) (bitsOf right))

/-- A quotient or a remainder, rounded toward zero. -/
def quotient (isRemainder : Bool) (left right : Int) : Except ArithFault Int :=
  if right = 0 then .error .invalid
  else if left = minInt64 && right = -1 then .error .overflow
  else .ok (if isRemainder then Int.tmod left right else Int.tdiv left right)

/-- The distance of a shift, of which only six bits count. -/
def shiftDistance (value : Int) : Nat :=
  (value % 64).toNat

/-- The value of an operator. -/
def Operator.apply (operator : Operator) (left right : Int) : Except ArithFault Int :=
  match operator with
  | multiply => .ok (wrap64 (left * right))
  | divide => quotient false left right
  | remainder => quotient true left right
  | add => .ok (wrap64 (left + right))
  | subtract => .ok (wrap64 (left - right))
  | shiftLeft => .ok (wrap64 (left * (Nat.pow 2 (shiftDistance right) : Nat)))
  | shiftRight => .ok (Int.fdiv left (Nat.pow 2 (shiftDistance right) : Nat))
  | less => .ok (truth (left < right))
  | lessEqual => .ok (truth (left ≤ right))
  | greater => .ok (truth (right < left))
  | greaterEqual => .ok (truth (right ≤ left))
  | equal => .ok (truth (left = right))
  | notEqual => .ok (truth (left ≠ right))
  | bitAnd => .ok (combineBits Nat.land left right)
  | bitXor => .ok (combineBits Nat.xor left right)
  | bitOr => .ok (combineBits Nat.lor left right)

/-- The value of an operator before a value. -/
def UnaryOperator.apply (operator : UnaryOperator) (value : Int) : Int :=
  match operator with
  | plus => value
  | minus => wrap64 (-value)
  | notZero => truth (value = 0)
  | complement => -value - 1

/-- How an expression reads and sets variables. -/
structure ArithScope (m : Type → Type) where
  read : String → m Int
  write : String → Int → m Unit
  fault : ArithFault → m Int

/-- The value of an expression. -/
def ArithExpr.eval {m : Type → Type} [Monad m] (scope : ArithScope m) : ArithExpr → m Int
  | number value => return value
  | named name => scope.read name
  | unary operator operand => return operator.apply (← operand.eval scope)
  | binary operator left right => do
      let first ← left.eval scope
      let second ← right.eval scope
      match operator.apply first second with
      | .ok value => return value
      | .error fault => scope.fault fault
  | both left right => do
      if (← left.eval scope) = 0 then return 0
      else return truth ((← right.eval scope) ≠ 0)
  | either left right => do
      if (← left.eval scope) ≠ 0 then return 1
      else return truth ((← right.eval scope) ≠ 0)
  | conditional test yes no => do
      if (← test.eval scope) ≠ 0 then yes.eval scope else no.eval scope
  | assign name operator? value => do
      let operand ← value.eval scope
      match operator? with
      | none =>
          scope.write name operand
          return operand
      | some operator =>
          match operator.apply (← scope.read name) operand with
          | .ok result =>
              scope.write name result
              return result
          | .error fault => scope.fault fault

end Shell
end ScriptCore
