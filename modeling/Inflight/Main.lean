import Inflight.CommandLine.Run
import Inflight.Storage.Directory

/-!
# The program

The outer layer: the files that a request may touch are taken into a directory,
the request is run on it, and the logs it wrote are put back.
-/

namespace Inflight.Main

set_option autoImplicit false

open CommandLine (Request Report)
open Storage (Directory)

/-- The folder in which a path stands. -/
def folderOf (path : String) : String :=
  match (path.toList.reverse.dropWhile (· != '/')).reverse with
  | [] => "."
  | folder => String.ofList folder

/-- The number of the failure to read a folder as a file. -/
def isFolderCode : UInt32 := 21

/-- Whether a folder stands under a path. -/
def isFolder (path : String) : IO Bool := do
  try
    let handle ← IO.FS.Handle.mk path .read
    let _ ← handle.read 1
    return false
  catch
    | .inappropriateType _ code _ => return code == isFolderCode
    | _ => return false

/-- Takes what stands under a path into a directory that does not hold it yet. -/
def takeIn (directory : Directory) (path : String) : IO Directory := do
  if directory.holds path then
    return directory
  if ← isFolder path then
    return directory.makeFolder path
  let directory ← if ← isFolder (folderOf path) then
      pure (directory.makeParents path)
    else pure directory
  try
    return directory.put path (← IO.FS.readBinFile path)
  catch _ => return directory

/-- Writes the file under a path back. -/
def putBack (directory : Directory) (path : String) : IO Unit := do
  match directory.readBytes path with
  | .ok bytes => IO.FS.writeBinFile path bytes
  | .error _ => pure ()

/-- Runs a request on the files it may touch.  A run without an end does not come back here. -/
def serve (arguments : List String) (request : Request) : IO Report := do
  let directory ← request.inputPaths.foldlM takeIn {}
  let logs := CommandLine.logPaths request directory
  let directory ← logs.foldlM takeIn directory
  match CommandLine.run arguments directory with
  | none => return {}
  | some (report, directory) =>
    logs.forM (putBack directory)
    return report

end Inflight.Main

/-- Runs the program on its arguments; gives the exit status. -/
def main (arguments : List String) : IO UInt32 := do
  let report ← match Inflight.CommandLine.Request.ofArguments arguments with
    | some request => Inflight.Main.serve arguments request
    | none =>
      let left := Inflight.CommandLine.run arguments ({} : Inflight.Storage.Directory)
      pure ((left.map Prod.fst).getD {})
  (← IO.getStdout).putStr report.output
  (← IO.getStderr).putStr report.complaint
  return report.status
