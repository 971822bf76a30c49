import WorkbookSite.Files.FileSystem
import WorkbookSite.Site.Settings
import WorkbookSite.Toml.Document

/-!
# Site configuration

The configuration file of a site is a TOML document with the tables `site` and
`sitemap`.  Every setting may be left out; one that is not known, or has a
value of the wrong type, is refused.  A table of settings may also be given as
an array of its values in order.
-/

namespace WorkbookSite

open Toml (Value Entries)

structure Configuration where
  specDirectory : String := "spec"
  staticDirectory : String := "spec/static"
  outputDirectory : String := "www"
  clean : Bool := true
  lang : LangPlacement := .doctype
  sitemapBase : Option String := none
deriving DecidableEq, Repr

inductive ConfigurationError where
  | unreadable (path : Path)
  | malformed (path : Path)
deriving DecidableEq, Repr

namespace ConfigurationError

def message : ConfigurationError → String
  | .unreadable path => String.join ["Failed to read ", path.text]
  | .malformed path => String.join ["Failed to parse ", path.text]

end ConfigurationError

namespace Configuration

def asText? : Value → Option String
  | .text content => some content
  | _ => none

def asTruth? : Value → Option Bool
  | .scalar (.truth value) => some value
  | _ => none

def placement? (name : String) : Option LangPlacement :=
  if name = "doctype" then some .doctype
  else if name = "root" then some .root
  else none

/-- Whether a value holds nothing. -/
def isHollow : Value → Bool
  | .array items => items.isEmpty
  | .tables items => items.isEmpty
  | .table _ entries => entries.isEmpty
  | _ => false

/-- A placement is given by its name, or by a table that has the name for its
key and holds nothing under it.  Between braces that key stands alone. -/
def asPlacement? : Value → Option LangPlacement
  | .text name => placement? name
  | .table kind entries =>
      match entries with
      | [] => none
      | (name, value) :: others =>
          if !isHollow value || (kind == .inline && !others.isEmpty) then none
          else placement? name
  | _ => none

/-- Sets the setting of the `site` table that has the given name. -/
def setSite? (configuration : Configuration) (name : String) (value : Value) :
    Option Configuration :=
  match name with
  | "spec_dir" =>
      (asText? value).map ({ configuration with specDirectory := · })
  | "static_dir" =>
      (asText? value).map ({ configuration with staticDirectory := · })
  | "output" =>
      (asText? value).map ({ configuration with outputDirectory := · })
  | "clean" => (asTruth? value).map ({ configuration with clean := · })
  | "lang" => (asPlacement? value).map ({ configuration with lang := · })
  | _ => none

def setSitemap? (configuration : Configuration) (name : String)
    (value : Value) : Option Configuration :=
  match name with
  | "base_url" =>
      (asText? value).map ({ configuration with sitemapBase := some · })
  | _ => none

/-- The settings of the `site` table, in the order of an array. -/
def siteOrder : List String :=
  ["spec_dir", "static_dir", "output", "clean", "lang"]

def setAll? (set : Configuration → String → Value → Option Configuration)
    (configuration : Configuration) (entries : Entries) :
    Option Configuration :=
  entries.foldlM (fun configuration entry =>
    set configuration entry.1 entry.2) configuration

def setTable? (configuration : Configuration) (name : String)
    (value : Value) : Option Configuration :=
  match name, value with
  | "site", .table _ entries => setAll? setSite? configuration entries
  | "site", .array items | "site", .tables items =>
      setAll? setSite? configuration (siteOrder.zip items)
  | "sitemap", .table _ entries => setAll? setSitemap? configuration entries
  | "sitemap", .array (value :: _) | "sitemap", .tables (value :: _) =>
      setSitemap? configuration "base_url" value
  | _, _ => none

def parse (text : String) : Option Configuration := do
  let entries ← Toml.parse text
  setAll? setTable? {} entries

/-- Reads the configuration file of a site, if there is one. -/
def load (files : FileSystem) (siteDirectory config : Path) :
    Except ConfigurationError Configuration :=
  let path := siteDirectory.join config
  match files.find? path with
  | none => .ok {}
  | some (.file (.text text)) =>
      match parse text with
      | some configuration => .ok configuration
      | none => .error (.malformed path)
  | some _ => .error (.unreadable path)

def buildSettings (configuration : Configuration) (siteDirectory : Path) :
    BuildSettings :=
  { siteDirectory := siteDirectory
    specDirectory := ⟨configuration.specDirectory⟩
    staticDirectory := ⟨configuration.staticDirectory⟩
    outputDirectory := ⟨configuration.outputDirectory⟩
    clean := configuration.clean
    lang := configuration.lang
    sitemapBase := configuration.sitemapBase }

end Configuration

end WorkbookSite
