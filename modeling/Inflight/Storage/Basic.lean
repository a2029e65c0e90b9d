import Inflight.Storage.Fault

/-!
# File systems

All that a session asks of a file system: to open a file for writing, to write
to an open file, and to read a file whole.  Each request may fail, and each may
change the file system whether it fails or not.
-/

namespace Inflight.Storage

set_option autoImplicit false

/-- A file system with states of type `σ` and open files of type `φ`. -/
class FileSystem (σ : Type) (φ : outParam Type) where
  /-- Opens the file under a path for writing, and empties it. -/
  create : String → σ → Except Fault φ × σ
  /-- Writes a text that is not empty where the last write to the open file ended. -/
  write : φ → String → σ → Except Fault Unit × σ
  /-- The text of the file under a path. -/
  read : String → σ → Except Fault String

end Inflight.Storage
