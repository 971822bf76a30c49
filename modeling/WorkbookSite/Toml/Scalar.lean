import WorkbookSite.Toml.Text

/-!
# Numbers and dates of a TOML document

A word is a longest run of the characters that numbers, dates and truth values
are made of.  `Scalar.ofWord?` says what a whole word is.  Words of numbers and
dates are checked for their form and range and then kept as they are written.
-/

namespace WorkbookSite.Toml

/-- What a word stands for. -/
inductive Scalar where
  | truth (value : Bool)
  | integer (written : List Char)
  | float (written : List Char)
  | moment (written : List Char)
deriving DecidableEq, Repr

namespace Scalar

def isWordCharacter (character : Char) : Bool :=
  character.isAlphanum || character == '+' || character == '-' ||
    character == '_' || character == '.' || character == ':'

/-- A run of digits in which single underscores may stand between digits; gives
the digits. -/
def digitRun? (isDigit : Char → Bool) : List Char → Option (List Char)
  | [] => none
  | [digit] => if isDigit digit then some [digit] else none
  | digit :: '_' :: rest =>
      if isDigit digit then (digitRun? isDigit rest).map (digit :: ·) else none
  | digit :: rest =>
      if isDigit digit then (digitRun? isDigit rest).map (digit :: ·) else none

def numberOf (base : Nat) (digits : List Char) : Nat :=
  digits.foldl (fun number digit => base * number + (hexDigit? digit).getD 0) 0

/-- Takes a sign off a number; gives whether it is a minus. -/
def splitSign : List Char → Bool × List Char
  | '+' :: rest => (false, rest)
  | '-' :: rest => (true, rest)
  | rest => (false, rest)

/-- The digits of a decimal number without needless zeros at its start. -/
def decimalRun? (written : List Char) : Option (List Char) :=
  (digitRun? Char.isDigit written).filter fun digits =>
    digits.length == 1 || digits.head? != some '0'

/-- The value of the sign bit in sixty-four bits. -/
def signBit : Nat := 0x8000000000000000

def isInteger (word : List Char) : Bool :=
  let fits (base : Nat) (isDigit : Char → Bool) (written : List Char) : Bool :=
    (digitRun? isDigit written).any fun digits =>
      numberOf base digits < signBit
  match word with
  | '0' :: 'x' :: written => fits 16 (hexDigit? · |>.isSome) written
  | '0' :: 'o' :: written => fits 8 (fun digit => '0' ≤ digit && digit ≤ '7')
      written
  | '0' :: 'b' :: written => fits 2 (fun digit => digit == '0' || digit == '1')
      written
  | _ =>
      let (negative, written) := splitSign word
      (decimalRun? written).any fun digits =>
        let number := numberOf 10 digits
        if negative then number ≤ signBit else number < signBit

/-- Whether this is the exponent of a float, or nothing. -/
def isExponent : List Char → Bool
  | [] => true
  | mark :: rest =>
      (mark == 'e' || mark == 'E') &&
        (digitRun? Char.isDigit (splitSign rest).2).isSome

def isBeforeExponent (character : Char) : Bool :=
  character != 'e' && character != 'E'

def isFloat (word : List Char) : Bool :=
  let written := (splitSign word).2
  if written = ['i', 'n', 'f'] ∨ written = ['n', 'a', 'n'] then true
  else
    let number := written.takeWhile isBeforeExponent
    let exponent := written.dropWhile isBeforeExponent
    let whole := number.takeWhile (· != '.')
    match number.dropWhile (· != '.') with
    | [] =>
        !exponent.isEmpty && (decimalRun? whole).isSome && isExponent exponent
    | _ :: fraction =>
        (decimalRun? whole).isSome && (digitRun? Char.isDigit fraction).isSome &&
          isExponent exponent

def daysIn (year month : Nat) : Nat :=
  if month = 2 then
    if year % 4 = 0 ∧ (year % 100 ≠ 0 ∨ year % 400 = 0) then 29 else 28
  else if month = 4 ∨ month = 6 ∨ month = 9 ∨ month = 11 then 30
  else 31

/-- The number of exactly `count` digits at the start, and the rest. -/
def fixedDigits? (count : Nat) (source : List Char) :
    Option (Nat × List Char) :=
  let digits := source.take count
  if digits.length = count ∧ digits.all Char.isDigit then
    some (numberOf 10 digits, source.drop count)
  else none

/-- What follows the expected character. -/
def after? (expected : Char) : List Char → Option (List Char)
  | character :: rest => if character = expected then some rest else none
  | [] => none

/-- What follows a date that exists. -/
def date? (source : List Char) : Option (List Char) := do
  let (year, rest) ← fixedDigits? 4 source
  let (month, rest) ← fixedDigits? 2 (← after? '-' rest)
  let (day, rest) ← fixedDigits? 2 (← after? '-' rest)
  if 1 ≤ month ∧ month ≤ 12 ∧ 1 ≤ day ∧ day ≤ daysIn year month then some rest
  else none

/-- What follows a fraction of a second, if there is one. -/
def secondFraction? : List Char → Option (List Char)
  | '.' :: rest =>
      if rest.head?.any Char.isDigit then some (rest.dropWhile Char.isDigit)
      else none
  | rest => some rest

/-- What follows a time of day.  A minute may have a leap second. -/
def time? (source : List Char) : Option (List Char) := do
  let (hour, rest) ← fixedDigits? 2 source
  let (minute, rest) ← fixedDigits? 2 (← after? ':' rest)
  let (second, rest) ← fixedDigits? 2 (← after? ':' rest)
  if hour ≤ 23 ∧ minute ≤ 59 ∧ second ≤ 60 then secondFraction? rest
  else none

/-- Whether this is an offset from universal time, or nothing. -/
def isOffset : List Char → Bool
  | [] => true
  | ['Z'] => true
  | ['z'] => true
  | sign :: rest =>
      (sign == '+' || sign == '-') &&
        (do
          let (hour, rest) ← fixedDigits? 2 rest
          let (minute, rest) ← fixedDigits? 2 (← after? ':' rest)
          pure (decide (hour ≤ 23 ∧ minute ≤ 59) && rest.isEmpty)).getD false

def isMoment (word : List Char) : Bool :=
  match date? word with
  | some [] => true
  | some (mark :: rest) =>
      (mark == 'T' || mark == 't' || mark == ' ') &&
        (time? rest).any isOffset
  | none => (time? word).any List.isEmpty

/-- What a whole word is. -/
def ofWord? (word : List Char) : Option Scalar :=
  if word = "true".toList then some (.truth true)
  else if word = "false".toList then some (.truth false)
  else if isInteger word then some (.integer word)
  else if isFloat word then some (.float word)
  else if isMoment word then some (.moment word)
  else none

/-- The word at the start of a source.  A date and a time that stand with one
space between them are one word. -/
def word (source : List Char) : List Char × List Char :=
  let first := source.takeWhile isWordCharacter
  let rest := source.dropWhile isWordCharacter
  match rest with
  | ' ' :: digit :: more =>
      if date? first = some [] ∧ digit.isDigit then
        (first ++ ' ' :: digit :: more.takeWhile isWordCharacter,
          more.dropWhile isWordCharacter)
      else (first, rest)
  | _ => (first, rest)

end Scalar

end WorkbookSite.Toml
