import BusReplay.Input.IoError
import BusReplay.Text.Utf8

/-!
# Streams of bytes and their lines

A stream is the bytes that can be read from it and the failure, if any, that reading meets after
them. Lines are cut at newlines, keep their terminator, and are decoded one by one, so stray
bytes never end a stream early. A line that a failure cuts off is not delivered.
-/

namespace BusReplay

def newlineByte : UInt8 := 10

/-- Put one more byte in front of bytes that are already cut into lines. -/
def attachByte (b : UInt8) : List (List UInt8) → List (List UInt8)
  | [] => [[b]]
  | line :: lines => if b = newlineByte then [b] :: line :: lines else (b :: line) :: lines

/-- The lines of a byte string, each with its terminator; the last may have none. -/
def cutLines (bytes : List UInt8) : List (List UInt8) := bytes.foldr attachByte []

def decodeLine (line : List UInt8) : String := .ofList (Text.Utf8.decodeLossy line)

/-- What can be read from an open source. -/
structure Stream where
  bytes : List UInt8
  /-- How reading fails after the bytes; without a failure they are followed by the end. -/
  failure : Option IoError
  deriving DecidableEq, Repr

namespace Stream

def ofBytes (bytes : List UInt8) : Stream := ⟨bytes, none⟩

/-- The byte lines that are delivered. -/
def rawLines (stream : Stream) : List (List UInt8) :=
  match stream.failure with
  | none => cutLines stream.bytes
  | some _ => (cutLines stream.bytes).filter fun line ↦ line.getLast? == some newlineByte

/-- The decoded lines that are delivered, terminators included. -/
def lines (stream : Stream) : List String := stream.rawLines.map decodeLine

def drained (stream : Stream) : Stream := ⟨[], stream.failure⟩

def readText (stream : Stream) : Except IoError String :=
  match stream.failure, Text.Utf8.decode? stream.bytes with
  | some e, _ => .error e
  | none, some text => .ok (.ofList text)
  | none, none => .error .invalidText

end Stream

/-- What a run can see of the file system. -/
structure FileSystem where
  /-- Whether a path leads to a file or a directory. -/
  present : String → Bool
  /-- Open a path for reading. -/
  openFile : String → Except IoError Stream

def FileSystem.readText (files : FileSystem) (path : String) : Except IoError String := do
  (← files.openFile path).readText

end BusReplay
