import WorkbookSite.CommandLine.Arguments
import WorkbookSite.Files.Path

/-!
# Invocations

The arguments of the program name a site directory, a configuration file and a
command with options of its own.  Options for all commands stand before the
command.
-/

namespace WorkbookSite

inductive Command where
  | init (overwrite : Bool)
  | build (output : Option Path) (keepOld : Bool)
  | check
  | serve (port : Nat) (output : Option Path)
deriving DecidableEq, Repr

structure Invocation where
  directory : Path
  config : Path
  command : Command
deriving DecidableEq, Repr

/-- What the arguments come to. -/
inductive Request where
  | invoke (invocation : Invocation)
  | notice
  | misuse
deriving DecidableEq, Repr

namespace Request

def helpForm : OptionForm := ⟨"help", some 'h', .notice⟩

def outputForm : OptionForm := ⟨"output", some 'o', .path⟩

def generalForms : List OptionForm :=
  [⟨"dir", some 'd', .path⟩, ⟨"config", some 'c', .path⟩,
   ⟨"verbose", some 'v', .flag⟩, helpForm, ⟨"version", some 'V', .notice⟩]

def commandForms : String → Option (List OptionForm)
  | "init" => some [⟨"yes", some 'y', .flag⟩, helpForm]
  | "build" => some [outputForm, ⟨"no-clean", none, .flag⟩, helpForm]
  | "check" => some [helpForm]
  | "serve" =>
      some
        [⟨"port", some 'p', .port⟩, outputForm, ⟨"no-open", none, .flag⟩,
         helpForm]
  | _ => none

def command? (name : String) (given : GivenOptions) : Option Command :=
  let has (option : String) : Bool := (given.lookup option).isSome
  let output := (given.lookup "output").map Path.mk
  match name with
  | "init" => some (.init (has "yes"))
  | "build" => some (.build output (has "no-clean"))
  | "check" => some .check
  | "serve" =>
      let port := ((given.lookup "port").bind Arguments.port?).getD 4000
      some (.serve port output)
  | _ => none

/-- What is asked for help about: everything, or one command. -/
def ofHelpTopics : List String → Request
  | [] => .notice
  | [name] =>
      if name = "help" ∨ (commandForms name).isSome then .notice else .misuse
  | _ => .misuse

def ofCommand (general : GivenOptions) (name : String)
    (arguments : List String) : Request :=
  if name = "help" then ofHelpTopics arguments
  else
    match commandForms name with
    | none => .misuse
    | some forms =>
        match Arguments.read forms arguments with
        | .notice => .notice
        | .options given [] =>
            match command? name given with
            | none => .misuse
            | some command =>
                .invoke
                  { directory := ⟨(general.lookup "dir").getD "."⟩
                    config := ⟨(general.lookup "config").getD "site.toml"⟩
                    command := command }
        | _ => .misuse

def ofArguments (arguments : List String) : Request :=
  match Arguments.read generalForms arguments with
  | .notice => .notice
  | .options general (name :: rest) => ofCommand general name rest
  | _ => .misuse

end Request

end WorkbookSite
