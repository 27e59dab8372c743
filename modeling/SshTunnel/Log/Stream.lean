import SshTunnel.Files.Change

/-!
# Streams

Where log lines go: a text in memory, or a file opened in some mode. Every open file has a
position of its own; in append mode what is written goes to the end of the file.
-/

namespace SshTunnel.Log

/-- How a file is opened. -/
inductive Mode where
  | append
  | write
  | appendRead
  | readWrite
  | read
deriving DecidableEq, Repr

/-- The mode with this name. -/
def Mode.ofText? (t : Text) : Option Mode :=
  if t = "a".toList then some append
  else if t = "w".toList then some write
  else if t = "a+".toList then some appendRead
  else if t = "r+".toList then some readWrite
  else if t = "r".toList then some read
  else none

/-- What is written goes to the end of the file. -/
def Mode.appends (m : Mode) : Bool := m = append || m = appendRead

/-- The file has to be there. -/
def Mode.needsFile (m : Mode) : Bool := m = read || m = readWrite

/-- A stream. -/
inductive Stream where
  | memory (content : Text)
  | closedMemory
  | file (place : Files.Location) (mode : Mode) (position : Nat)
  | closedFile (place : Files.Location)
deriving DecidableEq, Repr

/-- All streams, by number, and the files behind some of them. -/
structure Streams where
  files : Files.Tree
  streams : List Stream

namespace Streams

/-- Standard output alone. -/
def ofFiles (files : Files.Tree) : Streams := ⟨files, [.memory []]⟩

/-- The number of standard output. -/
def stdout : Nat := 0

/-- The bytes of the file at a place. -/
def contentAt (s : Streams) (place : Files.Location) : Bytes :=
  match s.files.node? place with
  | some (.file content) => content
  | _ => []

/-- Adds a stream under the next number. -/
def add (s : Streams) (stream : Stream) : Streams := { s with streams := s.streams ++ [stream] }

/-- Puts a stream in the place of another one. -/
def replace (s : Streams) (number : Nat) (stream : Stream) : Streams :=
  { s with streams := s.streams.set number stream }

/-- Opens the file at a path under the next number. Directories above it are made, and mode
`write` empties it. -/
def openFile (s : Streams) (path : Text) (mode : Mode) : Streams × Option Files.Refusal :=
  match s.files.openFile mode.needsFile path with
  | (files, .error e) => ({ s with files := files }, some e)
  | (files, .ok place) =>
      let files := if mode = .write then files.setContent place [] else files
      (add { s with files := files } (.file place mode 0), none)

/-- Closes a stream. -/
def close (s : Streams) (number : Nat) : Streams :=
  match s.streams[number]? with
  | some (.memory _) => s.replace number .closedMemory
  | some (.file place _ _) => s.replace number (.closedFile place)
  | _ => s

/-- Puts bytes into a content from a position on; a gap is filled with zeros. -/
def overwrite (content : Bytes) (position : Nat) (bytes : Bytes) : Bytes :=
  content.take position ++ List.replicate (position - content.length) 0 ++ bytes
    ++ content.drop (position + bytes.length)

/-- Writes a text; nothing happens on a stream that cannot be written. -/
def write (s : Streams) (number : Nat) (t : Text) : Streams :=
  match s.streams[number]? with
  | some (.memory content) => s.replace number (.memory (content ++ t))
  | some (.file place mode position) =>
      if mode = .read then s
      else
        let content := s.contentAt place
        let bytes := Utf8.encode t
        let start := if mode.appends then content.length else position
        replace { s with files := s.files.setContent place (overwrite content start bytes) }
          number (.file place mode (start + bytes.length))
  | _ => s

/-- Empties a file that has reached a size, and goes back to its start. -/
def truncateAt (s : Streams) (number : Nat) (limit : Option Nat) : Streams :=
  match s.streams[number]?, limit with
  | some (.file place mode _), some limit =>
      if mode = .read || (s.contentAt place).length < limit then s
      else replace { s with files := s.files.setContent place [] } number (.file place mode 0)
  | _, _ => s

/-- The stream is a file that has been closed. -/
def isClosedFile (s : Streams) (number : Nat) : Bool :=
  match s.streams[number]? with
  | some (.closedFile _) => true
  | _ => false

/-- What can be read where a stream goes; nothing of a text in memory that was closed. -/
def content? (s : Streams) (number : Nat) : Option Text :=
  match s.streams[number]? with
  | some (.memory content) => some content
  | some (.file place _ _) => some (Utf8.decodeLossy (s.contentAt place))
  | some (.closedFile place) => some (Utf8.decodeLossy (s.contentAt place))
  | _ => none

end Streams

end SshTunnel.Log
