/-!
# Failures of files and consoles

The causes for which opening, reading, writing or flushing can fail, and their
wording.
-/

namespace Inflight.Storage

set_option autoImplicit false

/-- Why an operation on a file or on the console failed. -/
inductive Fault where
  /-- Nothing is stored under the path, or its folder does not exist. -/
  | notFound
  /-- A file stands where the path needs a folder. -/
  | notFolder
  /-- The path names a folder where a file is needed. -/
  | isFolder
  /-- The path, or one of its components, is longer than the file system allows. -/
  | nameTooLong
  /-- The device has no room for the bytes. -/
  | noSpace
  /-- The path holds a NUL character, which no file name can. -/
  | nulInPath
  /-- The file's bytes are not the encoding of a text. -/
  | notText
  /-- The console refused a write. -/
  | consoleWrite
  /-- The console took a write and then failed to flush it. -/
  | consoleFlush
deriving DecidableEq, Repr

/-- The wording of a failure. -/
def Fault.message : Fault → String
  | .notFound => "No such file or directory (os error 2)"
  | .notFolder => "Not a directory (os error 20)"
  | .isFolder => "Is a directory (os error 21)"
  | .nameTooLong => "File name too long (os error 36)"
  | .noSpace => "No space left on device (os error 28)"
  | .nulInPath => "file name contained an unexpected NUL byte"
  | .notText => "stream did not contain valid UTF-8"
  | .consoleWrite => "console write refused"
  | .consoleFlush => "console flush refused"

end Inflight.Storage
