import Inflight.Notice
import Inflight.Storage.Basic

/-!
# Log sinks

A sink is an open log file with a buffer in front of it.  A record is put into
the buffer and the buffer is written out at once, so every record is in the file
when the next command starts.  A text that does not fit into the buffer goes to
the file directly.  What a failing write leaves in the buffer stays there until
the sink is closed, which fails again, or abandoned, which drops it.
-/

namespace Inflight.Log

set_option autoImplicit false

open Storage (FileSystem)

/-- What surrounds a session: the file system, and the notices left so far. -/
structure Surroundings (σ : Type) where
  files : σ
  /-- The notices, oldest first. -/
  notices : List Notice := []

/-- Leaves a notice. -/
def Surroundings.note {σ : Type} (around : Surroundings σ) (notice : Notice) : Surroundings σ :=
  { around with notices := around.notices ++ [notice] }

/-- An open log file. -/
structure Sink (φ : Type) where
  /-- The path under which the file was opened. -/
  path : String
  file : φ
  /-- What is still to be written. -/
  pending : String := ""

namespace Sink

/-- The number of bytes that the buffer holds. -/
def capacity : Nat := 8192

variable {σ φ : Type} [FileSystem σ φ]

/-- Opens the file under a path and empties it. -/
def openAt (path : String) (around : Surroundings σ) :
    Except Fault (Sink φ) × Surroundings σ :=
  match FileSystem.create path around.files with
  | (.error cause, files) => (.error (.logNotOpened path cause), { around with files })
  | (.ok file, files) =>
    (.ok { path, file }, { around with files }.note (.logOpened path))

/-- The bytes for which the buffer has room. -/
def room (sink : Sink φ) : Nat := capacity - sink.pending.utf8ByteSize

/-- Puts a text into the buffer. -/
def buffer (sink : Sink φ) (text : String) : Sink φ :=
  { sink with pending := sink.pending ++ text }

/-- Writes the buffer out.  When that fails the buffer keeps what it holds. -/
def flush (sink : Sink φ) (files : σ) : Except Storage.Fault Unit × Sink φ × σ :=
  if sink.pending = "" then (.ok (), sink, files)
  else
    match FileSystem.write sink.file sink.pending files with
    | (.error cause, files) => (.error cause, sink, files)
    | (.ok (), files) => (.ok (), { sink with pending := "" }, files)

/-- Makes room for a text where there is too little. -/
def makeRoom (sink : Sink φ) (text : String) (files : σ) : Except Storage.Fault Unit × Sink φ × σ :=
  if sink.room < text.utf8ByteSize then sink.flush files else (.ok (), sink, files)

/-- Takes a text into the buffer, or writes it directly when the whole buffer is too small. -/
def accept (sink : Sink φ) (text : String) (files : σ) : Except Storage.Fault Unit × Sink φ × σ :=
  if text.utf8ByteSize < sink.room then (.ok (), sink.buffer text, files)
  else
    match sink.makeRoom text files with
    | (.error cause, sink, files) => (.error cause, sink, files)
    | (.ok (), sink, files) =>
      if capacity ≤ text.utf8ByteSize then
        match FileSystem.write sink.file text files with
        | (result, files) => (result, sink, files)
      else (.ok (), sink.buffer text, files)

/-- Takes a text and writes the buffer out. -/
def write (sink : Sink φ) (text : String) (files : σ) : Except Storage.Fault Unit × Sink φ × σ :=
  match sink.accept text files with
  | (.error cause, sink, files) => (.error cause, sink, files)
  | (.ok (), sink, files) => sink.flush files

/-- Closes the file without writing the buffer out. -/
def abandon (sink : Sink φ) (around : Surroundings σ) : Surroundings σ :=
  around.note (.logAbandoned sink.path sink.pending.utf8ByteSize)

/-- Writes the buffer out and closes the file.  The file is closed even when that fails, and
what was not written is dropped. -/
def close (sink : Sink φ) (around : Surroundings σ) :
    Except Fault String × Surroundings σ :=
  match sink.flush around.files with
  | (.error cause, sink, files) => (.error (.storage cause), sink.abandon { around with files })
  | (.ok (), _, files) => (.ok sink.path, { around with files }.note (.logClosed sink.path))

/-- Lets go of a sink without a word: the buffer is written out if that works. -/
def release (sink : Sink φ) (around : Surroundings σ) : Surroundings σ :=
  match sink.flush around.files with
  | (_, _, files) => { around with files }

end Sink

end Inflight.Log
