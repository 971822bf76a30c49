import WorkbookSite.CommandLine.Run
import WorkbookSite.Workbook.Tabbed

/-!
# The program

Reads everything below the working directory, runs the command line on it, and
writes back what changed.  On the disk, workbooks are kept as plain text.
-/

namespace WorkbookSite.Disk

def ofBytes (bytes : ByteArray) : Content :=
  match String.fromUTF8? bytes with
  | none => .bytes bytes.data.toList
  | some text =>
      match Workbook.ofTabbedText? text with
      | some workbook => .workbook workbook
      | none => .text text

def toBytes : Content → ByteArray
  | .text content => content.toUTF8
  | .workbook workbook => workbook.toTabbedText.toUTF8
  | .bytes content => ⟨content.toArray⟩

/-- Adds what is found below a directory to the file system. -/
partial def read (entries : Array IO.FS.DirEntry) (location : Location)
    (files : FileSystem) : IO FileSystem := do
  let mut files := files
  for entry in entries do
    let place := location ++ [entry.fileName]
    if ← entry.path.isDir then
      files ← read (← entry.path.readDir) place (files.put place .directory)
    else
      let content := ofBytes (← IO.FS.readBinFile entry.path)
      files := files.put place (.file content)
  return files

/-- Removes what is no longer there, contents before their directory. -/
def removeOld (before after : FileSystem) : IO Unit := do
  let root ← IO.currentDir
  for (names, item) in (before.below before.workingDirectory).reverse do
    let path := names.foldl (· / ·) root
    match item, after.item? (before.workingDirectory ++ names) with
    | .directory, some .directory => pure ()
    | .directory, _ => IO.FS.removeDirAll path
    | .file _, some (.file _) => pure ()
    | .file _, _ => IO.FS.removeFile path

/-- Writes what is new or changed, directories before their contents. -/
def writeNew (before after : FileSystem) : IO Unit := do
  let root ← IO.currentDir
  for (names, item) in after.below after.workingDirectory do
    let path := names.foldl (· / ·) root
    unless before.item? (after.workingDirectory ++ names) == some item do
      match item with
      | .directory => IO.FS.createDirAll path
      | .file content => IO.FS.writeBinFile path (toBytes content)

/-- The file system with the given working directory in it. -/
def empty (workingDirectory : Location) : FileSystem :=
  (List.range workingDirectory.length).foldl
    (fun files depth =>
      files.put (workingDirectory.take (depth + 1)) .directory)
    { workingDirectory := workingDirectory }

end WorkbookSite.Disk

open WorkbookSite in
def main (arguments : List String) : IO UInt32 := do
  let root ← IO.currentDir
  let location := root.components.filter (· != "")
  let before ← Disk.read (← root.readDir) location (Disk.empty location)
  let (exit, after) := CommandLine.run arguments before
  Disk.removeOld before after
  Disk.writeNew before after
  match exit.errorLine? with
  | some line => IO.eprintln line
  | none => pure ()
  return exit.code.toUInt32
