import WorkbookSite.Markup.Printer

/-!
# Writing to a limited sink

A sink takes a fixed number of bytes and then refuses all others.
`Document.write` writes a document piece by piece and stops at the first piece
that does not fit, of which the sink still takes what it has room for.
-/

namespace WorkbookSite.Markup

/-- Something that takes bytes until it is full. -/
structure Sink (ε : Type) where
  /-- How many more bytes will be taken. -/
  room : Nat
  /-- The error that bytes are refused with. -/
  refusal : ε
  taken : List UInt8 := []
  /-- How often bytes were refused. -/
  refusals : Nat := 0
deriving DecidableEq, Repr

/-- The sink was full before everything was written. -/
inductive SinkError where
  | full
deriving DecidableEq, Repr

/-- An action that writes to a sink and keeps what was taken also when it
fails. -/
abbrev Writing (ε : Type) := ExceptT ε (StateM (Sink ε))

def utf8Bytes (text : List Char) : List UInt8 :=
  (String.ofList text).toUTF8.data.toList

variable {ε : Type}

/-- Offers bytes to a sink.  If they do not all fit, it takes those that do and
refuses the others. -/
def Sink.offer (sink : Sink ε) (bytes : List UInt8) : Except ε Unit × Sink ε :=
  let next :=
    { sink with
      room := sink.room - bytes.length
      taken := sink.taken ++ bytes.take sink.room }
  if bytes.length ≤ sink.room then (.ok (), next)
  else (.error sink.refusal, { next with refusals := sink.refusals + 1 })

def writePiece (text : List Char) : Writing ε Unit := fun sink =>
  sink.offer (utf8Bytes text)

def writeAttributes : List (String × String) → Writing ε Unit
  | [] => pure ()
  | pair :: attributes => do
      writePiece (printAttribute pair)
      writeAttributes attributes

mutual

/-- Writes a node whose parent is read raw or not. -/
def Node.write (raw : Bool) : Node → Writing ε Unit
  | .text content => writePiece ((Node.text content).print raw)
  | .comment content => writePiece ((Node.comment content).print raw)
  | .element name attributes children => do
      writePiece ('<' :: name.toList)
      writeAttributes attributes
      if isVoid name then writePiece "/>".toList
      else
        writePiece ['>']
        Node.writeList (textMode name == .raw) children
        writePiece ("</".toList ++ name.toList ++ ['>'])

def Node.writeList (raw : Bool) : List Node → Writing ε Unit
  | [] => pure ()
  | node :: nodes => do
      node.write raw
      Node.writeList raw nodes

end

def Document.write (document : Document) : Writing ε Unit := do
  writePiece (Document.opening.toList ++ document.doctype.name.toList)
  writeAttributes document.doctype.attributes
  writePiece ['>']
  document.root.node.write false

/-- What a sink with room for `limit` bytes takes of a document, and whether
all of it fitted. -/
def Document.writeLimited (document : Document) (limit : Nat) :
    Except SinkError Unit × List UInt8 :=
  let (outcome, sink) :=
    document.write { room := limit, refusal := SinkError.full }
  (outcome, sink.taken)

end WorkbookSite.Markup
