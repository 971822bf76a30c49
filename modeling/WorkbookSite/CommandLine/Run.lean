import WorkbookSite.CommandLine.Invocation
import WorkbookSite.CommandLine.Scaffold
import WorkbookSite.Configuration
import WorkbookSite.Site.Build
import WorkbookSite.Workbook.Stored

/-!
# Running commands

`CommandLine.run` does what the arguments ask for on a file system, and tells
how the program ends.
-/

namespace WorkbookSite

inductive Exit where
  | success
  | failure (message : String)
  | misuse
deriving DecidableEq, Repr

namespace Exit

def code : Exit → Nat
  | .success => 0
  | .failure _ => 1
  | .misuse => 2

def errorLine? : Exit → Option String
  | .failure message => some ("Error: " ++ message)
  | _ => none

end Exit

namespace CommandLine

/-- Runs an action and tells how the program ends after it. -/
def finish {ε α : Type} (describe : ε → String) (action : FileAction ε α)
    (files : FileSystem) : Exit × FileSystem :=
  match action files with
  | (.ok _, files) => (.success, files)
  | (.error error, files) => (.failure (describe error), files)

/-- The settings of a build, with what the command says in place of what the
configuration file says. -/
def buildSettings (configuration : Configuration) (directory : Path)
    (output : Option Path) (keepOld : Bool) : BuildSettings :=
  let settings := configuration.buildSettings directory
  { settings with
    outputDirectory := output.getD settings.outputDirectory
    clean := settings.clean && !keepOld }

/-- Whether there is a directory to show; showing it changes nothing. -/
def serve (files : FileSystem) (directory : Path) : Exit :=
  if files.pathExists directory then .success
  else
    .failure
      ("Directory not found: " ++ directory.text ++
        ". Run 'sheetsite build' first.")

/-- Runs a command that needs the configuration of the site. -/
def withConfiguration (invocation : Invocation) (files : FileSystem)
    (next : Configuration → Exit × FileSystem) : Exit × FileSystem :=
  match Configuration.load files invocation.directory invocation.config with
  | .error error => (.failure error.message, files)
  | .ok configuration => next configuration

variable [WorkbookReader]

def invoke (invocation : Invocation) (files : FileSystem) :
    Exit × FileSystem :=
  let directory := invocation.directory
  match invocation.command with
  | .init overwrite =>
      finish ScaffoldError.message (Scaffold.write directory overwrite) files
  | .build output keepOld =>
      withConfiguration invocation files fun configuration =>
        let settings := buildSettings configuration directory output keepOld
        finish (fun _ => "Build failed") (Build.run settings) files
  | .check =>
      withConfiguration invocation files fun configuration =>
        match Build.check files (configuration.buildSettings directory) with
        | .ok _ => (.success, files)
        | .error _ => (.failure "Check failed", files)
  | .serve _ (some output) => (serve files (directory.join output), files)
  | .serve _ none =>
      withConfiguration invocation files fun configuration =>
        let settings := configuration.buildSettings directory
        (serve files settings.outputPath, files)

def run (arguments : List String) (files : FileSystem) : Exit × FileSystem :=
  match Request.ofArguments arguments with
  | .notice => (.success, files)
  | .misuse => (.misuse, files)
  | .invoke invocation => invoke invocation files

end CommandLine

end WorkbookSite
