import ScriptCore.Host.Shell.Arithmetic

/-!
# Formatted output

The texts that `echo` and `printf` write. Both know the escapes of C; `printf`
also puts its arguments in place of conversions, and uses its format again as
long as arguments are left.
-/

namespace ScriptCore
namespace Shell

/-- A text, and whether output ends with it. -/
structure Written where
  chars : List Char
  isEnd : Bool

/-- The character of a letter after a backslash. -/
def escapeOf? : Char → Option Char
  | 'a' => some '\x07'
  | 'b' => some '\x08'
  | 'f' => some '\x0c'
  | 'n' => some '\n'
  | 'r' => some '\r'
  | 't' => some '\t'
  | 'v' => some '\x0b'
  | '\\' => some '\\'
  | _ => none

/-- Up to three octal digits as a byte, and the rest. -/
def readOctal (chars : List Char) : Char × List Char :=
  let digits := (chars.take 3).takeWhile fun char => digitValue char < 8
  (Char.ofNat (digitsValue 8 digits % 256), chars.drop digits.length)

/-- A text with its escapes carried out, as `echo` does it: octal digits follow
a zero, and `\c` ends the output. -/
def echoed : Nat → List Char → Written
  | 0, chars => ⟨chars, false⟩
  | _ + 1, [] => ⟨[], false⟩
  | fuel + 1, char :: chars =>
      let after (front : List Char) (rest : List Char) : Written :=
        let written := echoed fuel rest
        { written with chars := front ++ written.chars }
      match char, chars with
      | '\\', 'c' :: _ => ⟨[], true⟩
      | '\\', '0' :: rest =>
          let (byte, rest) := readOctal rest
          after [byte] rest
      | '\\', letter :: rest =>
          match escapeOf? letter with
          | some byte => after [byte] rest
          | none => after ['\\', letter] rest
      | _, _ => after [char] chars

/-- What `echo` writes for its arguments. -/
def echoText (args : List (List Char)) : List Char :=
  let (isLine, words) :=
    match args with
    | ['-', 'n'] :: rest => (false, rest)
    | _ => (true, args)
  let rec write : List (List Char) → List Char
    | [] => if isLine then ['\n'] else []
    | word :: rest =>
        let written := echoed (word.length + 1) word
        if written.isEnd then written.chars
        else if rest.isEmpty then written.chars ++ write rest
        else written.chars ++ ' ' :: write rest
  write words

/-! ## Conversions -/

/-- A conversion of a format. -/
structure Conversion where
  flags : List Char
  width : Nat
  precision? : Option Nat
  letter : Char

/-- Read a conversion after its percent sign. -/
def readConversion? (chars : List Char) : Option (Conversion × List Char) :=
  let flags := chars.takeWhile fun char => ['-', '+', ' ', '0', '#'].contains char
  let rest := chars.drop flags.length
  let (width, rest) := readDigits 10 rest
  let (precision?, rest) :=
    match rest with
    | '.' :: rest =>
        let (digits, rest) := readDigits 10 rest
        (some (digitsValue 10 digits), rest)
    | _ => (none, rest)
  match rest with
  | letter :: rest =>
      if ['s', 'd', 'i', 'u', 'o', 'x', 'X', 'c', 'b'].contains letter then
        some ({ flags, width := digitsValue 10 width, precision?, letter }, rest)
      else none
  | [] => none

/-- Fill a text up to a width. -/
def padded (conversion : Conversion) (canZero : Bool) (chars : List Char) : List Char :=
  let missing := conversion.width - chars.length
  if conversion.flags.contains '-' then chars ++ List.replicate missing ' '
  else if canZero && conversion.flags.contains '0' && conversion.precision?.isNone then
    match chars with
    | '-' :: digits => '-' :: (List.replicate missing '0' ++ digits)
    | _ => List.replicate missing '0' ++ chars
  else List.replicate missing ' ' ++ chars

/-- The integer of an argument; a quote before a character gives its code. -/
def formatInteger? (arg : List Char) : Option Int :=
  match arg with
  | '\x27' :: char :: _ => some char.toNat
  | '\x22' :: char :: _ => some char.toNat
  | _ => integerOf? false arg

/-- An argument as a conversion shows it, and whether the argument is right. -/
def converted (conversion : Conversion) (arg : List Char) : List Char × Bool :=
  let number := formatInteger? arg
  let value := number.getD 0
  let unsigned := (value % 18446744073709551616).toNat
  let digits (base : Nat) : List Char := Nat.toDigits base unsigned
  match conversion.letter with
  | 's' =>
      let chars :=
        match conversion.precision? with
        | some count => arg.take count
        | none => arg
      (padded conversion false chars, true)
  | 'b' => (padded conversion false (echoed (arg.length + 1) arg).chars, true)
  | 'c' => (padded conversion false (arg.take 1), true)
  | 'o' => (padded conversion true (digits 8), number.isSome)
  | 'x' => (padded conversion true (digits 16), number.isSome)
  | 'X' => (padded conversion true ((digits 16).map Char.toUpper), number.isSome)
  | 'u' => (padded conversion true (digits 10), number.isSome)
  | _ =>
      let text := Nat.toDigits 10 value.natAbs
      (padded conversion true (if value < 0 then '-' :: text else text), number.isSome)

/-- The state of `printf`: what it has written, last character first, the
arguments that are left, and whether all was right. -/
structure Printing where
  written : List Char
  args : List (List Char)
  isRight : Bool
  isEnd : Bool

/-- Write a format once. -/
def printOnce : Nat → List Char → Printing → Printing
  | 0, _, printing => printing
  | _ + 1, [], printing => printing
  | fuel + 1, char :: chars, printing =>
      let plain (front : List Char) (rest : List Char) : Printing :=
        printOnce fuel rest { printing with written := front.reverse ++ printing.written }
      match char, chars with
      | '\\', 'c' :: _ => { printing with isEnd := true }
      | '\\', letter :: rest =>
          match escapeOf? letter with
          | some byte => plain [byte] rest
          | none =>
              if digitValue letter < 8 then
                let (byte, rest) := readOctal chars
                plain [byte] rest
              else plain ['\\', letter] rest
      | '%', '%' :: rest => plain ['%'] rest
      | '%', _ =>
          match readConversion? chars with
          | none => { printing with isRight := false, isEnd := true }
          | some (conversion, rest) =>
              let (text, isRight) := converted conversion (printing.args.headD [])
              printOnce fuel rest
                { printing with
                  written := text.reverse ++ printing.written
                  args := printing.args.tail
                  isRight := printing.isRight && (isRight || printing.args.isEmpty) }
      | _, _ => plain [char] chars

/-- Write a format until no argument is left, or the format uses none. -/
def printAll (format : List Char) : Nat → Printing → Printing
  | 0, printing => printing
  | fuel + 1, printing =>
      let after := printOnce (format.length + 1) format printing
      if after.isEnd || after.args.isEmpty || after.args.length = printing.args.length then after
      else printAll format fuel after

/-- What `printf` writes, and whether all was right. -/
def printText (format : List Char) (args : List (List Char)) : List Char × Bool :=
  let printing := printAll format (args.length + 1) ⟨[], args, true, false⟩
  (printing.written.reverse, printing.isRight)

end Shell
end ScriptCore
