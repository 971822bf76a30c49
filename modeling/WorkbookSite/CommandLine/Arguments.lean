/-!
# Command line arguments

A command declares its options; `Arguments.read` takes options off the front of
the arguments until it meets one that is none.  An option is written with its
long or its short name; a value follows it as the next argument or in the same
one.  Short flags may be written together.
-/

namespace WorkbookSite

/-- What an option takes. -/
inductive OptionKind where
  | flag
  /-- A path, which must not be empty. -/
  | path
  | port
  /-- Nothing; the program only shows a text and ends. -/
  | notice
deriving DecidableEq, Repr

structure OptionForm where
  long : String
  short : Option Char
  kind : OptionKind
deriving DecidableEq, Repr

/-- The options that are given, by their long names, with their values. -/
abbrev GivenOptions := List (String × String)

/-- What reading options comes to. -/
inductive OptionReading where
  /-- The options, and the arguments that follow them. -/
  | options (given : GivenOptions) (rest : List String)
  | notice
  | misuse
deriving DecidableEq, Repr

namespace Arguments

/-- The port number that a text writes, with an optional sign. -/
def port? (text : String) : Option Nat :=
  let (negative, digits) :=
    match text.toList with
    | '-' :: rest => (true, rest)
    | '+' :: rest => (false, rest)
    | rest => (false, rest)
  if digits.isEmpty || !digits.all Char.isDigit then none
  else
    let number := digits.foldl (fun number digit =>
      10 * number + (digit.toNat - '0'.toNat)) 0
    if 65535 < number ∨ (negative ∧ number ≠ 0) then none else some number

def accepts (kind : OptionKind) (value : String) : Bool :=
  match kind with
  | .flag | .notice => false
  | .path => value != ""
  | .port => (port? value).isSome

/-- Adds an option with its value; none may be given twice. -/
def give? (form : OptionForm) (value : String) (given : GivenOptions) :
    Option GivenOptions :=
  if (given.lookup form.long).isSome then none
  else some (given ++ [(form.long, value)])

def looksLikeOption (argument : String) : Bool :=
  argument.toList.head? == some '-' && argument != "-"

/-- An option whose value is still to come as the next argument. -/
inductive Step where
  | given (options : GivenOptions)
  | awaits (form : OptionForm)
  | notice
  | misuse

/-- Takes an option with the text that was written in the same argument. -/
def takeValue (form : OptionForm) (value : String) (given : GivenOptions) :
    Step :=
  if accepts form.kind value then
    match give? form value given with
    | some given => .given given
    | none => .misuse
  else .misuse

/-- Reads an option by its long name, after the dashes. -/
def readLong (forms : List OptionForm) (written : List Char)
    (given : GivenOptions) : Step :=
  let name := String.ofList (written.takeWhile (· != '='))
  match forms.find? (·.long == name), written.dropWhile (· != '=') with
  | none, _ => .misuse
  | some form, [] =>
      match form.kind with
      | .notice => .notice
      | .flag =>
          match give? form "" given with
          | some given => .given given
          | none => .misuse
      | .path | .port => .awaits form
  | some form, _ :: value => takeValue form (String.ofList value) given

def readShort (forms : List OptionForm) :
    List Char → GivenOptions → Step
  | [], given => .given given
  | name :: rest, given =>
      match forms.find? (·.short == some name) with
      | none => .misuse
      | some form =>
          match form.kind with
          | .notice => .notice
          | .flag =>
              match give? form "" given with
              | some given => readShort forms rest given
              | none => .misuse
          | .path | .port =>
              match rest with
              | [] => .awaits form
              | '=' :: value => takeValue form (String.ofList value) given
              | value => takeValue form (String.ofList value) given

def readOption (forms : List OptionForm) (argument : String)
    (given : GivenOptions) : Step :=
  match argument.toList with
  | '-' :: '-' :: written => readLong forms written given
  | '-' :: written => readShort forms written given
  | _ => .misuse

/-- Takes options off the front of the arguments, after those already
`given`.  Two dashes end the options, and nothing may follow them. -/
def readMore (forms : List OptionForm) :
    List String → GivenOptions → OptionReading
  | [], given => .options given []
  | argument :: rest, given =>
      if argument = "--" then
        if rest.isEmpty then .options given [] else .misuse
      else if !looksLikeOption argument then .options given (argument :: rest)
      else
        match readOption forms argument given with
        | .given given => readMore forms rest given
        | .notice => .notice
        | .misuse => .misuse
        | .awaits form =>
            match rest with
            | [] => .misuse
            | value :: rest =>
                if looksLikeOption value then .misuse
                else
                  match takeValue form value given with
                  | .given given => readMore forms rest given
                  | _ => .misuse

def read (forms : List OptionForm) (arguments : List String) : OptionReading :=
  readMore forms arguments []

end Arguments

end WorkbookSite
