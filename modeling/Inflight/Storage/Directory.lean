import Inflight.Storage.Basic
import Inflight.Storage.Route

/-!
# Directories

A concrete file system: folders and files, and two devices, of which one is
always full and the other takes everything and holds nothing.  A path is a row
of components that are followed from the root or from the working folder; every
component but the last has to be a folder.  A file keeps its identity while it
is open, so overwriting it elsewhere changes what an open sink writes behind.
-/

namespace Inflight.Storage

set_option autoImplicit false

/-- What stands under a path. -/
inductive Entry where
  | folder
  /-- A file, by its place among the contents. -/
  | file (content : Nat)
  /-- A device without any room. -/
  | fullDevice
  /-- A device that takes everything and holds nothing. -/
  | nullDevice
deriving DecidableEq, Repr

/-- A tree of folders and files. -/
structure Directory where
  /-- What stands where, by the components that lead there from the root. -/
  entries : List (List String × Entry) := []
  /-- The bytes of the files. -/
  contents : Array ByteArray := #[]
  /-- The open files: the content each writes to, and the place of its next write. -/
  cursors : Array (Nat × Nat) := #[]

/-- An open file. -/
inductive OpenFile where
  /-- The device that is always full. -/
  | fullDevice
  /-- The device that takes everything. -/
  | nullDevice
  /-- A file, by its place among the open ones. -/
  | cursor (index : Nat)
deriving DecidableEq, Repr

namespace Directory

/-! ## Following paths -/

/-- What stands in every directory. -/
def fixedEntries : List (List String × Entry) :=
  [([], .folder), (["dev"], .folder), (["dev", "full"], .fullDevice),
   (["dev", "null"], .nullDevice), (["tmp"], .folder), (Route.workingFolder, .folder)]

variable (directory : Directory)

/-- What stands under components from the root. -/
def entry? (components : List String) : Option Entry :=
  (fixedEntries ++ directory.entries).lookup components

/-- Goes from a folder along components, each of which has to be a folder. -/
def enter : List String → List String → Except Fault (List String)
  | here, [] => .ok here
  | here, component :: rest =>
    if component = "." then enter here rest
    else if component = ".." then enter (Route.above here) rest
    else if Route.maxComponent < component.utf8ByteSize then .error .nameTooLong
    else
      match directory.entry? (here ++ [component]) with
      | none => .error .notFound
      | some (.file _) => .error .notFolder
      | some .fullDevice => .error .notFolder
      | some .nullDevice => .error .notFolder
      | some .folder => enter (here ++ [component]) rest

/-- A path followed up to its last component. -/
def locate (path : String) : Except Fault (Route × List String) := do
  Route.checkPath path
  let route := Route.ofPath path
  let folder ← directory.enter route.start route.parents
  return (route, folder)

/-- Whether anything stands under a path. -/
def holds (path : String) : Bool :=
  match directory.locate path with
  | .ok (route, folder) => (directory.entry? (folder ++ route.leaf.toList)).isSome
  | .error _ => false

/-! ## Files -/

/-- The bytes that result from writing at a place: zeros fill a gap before it. -/
def overwrite (bytes : ByteArray) (place : Nat) (text : ByteArray) : ByteArray :=
  let gap := ByteArray.mk (Array.replicate (place - bytes.size) 0)
  bytes.extract 0 place ++ gap ++ text ++ bytes.extract (place + text.size) bytes.size

/-- Opens the file under components of a path and empties it, making it when it is new. -/
def openEmpty (components : List String) : Except Fault OpenFile × Directory :=
  match directory.entry? components with
  | some .folder => (.error .isFolder, directory)
  | some .fullDevice => (.ok .fullDevice, directory)
  | some .nullDevice => (.ok .nullDevice, directory)
  | some (.file content) =>
    (.ok (.cursor directory.cursors.size),
      { directory with
        contents := directory.contents.setIfInBounds content ByteArray.empty
        cursors := directory.cursors.push (content, 0) })
  | none =>
    (.ok (.cursor directory.cursors.size),
      { entries := directory.entries ++ [(components, .file directory.contents.size)]
        contents := directory.contents.push ByteArray.empty
        cursors := directory.cursors.push (directory.contents.size, 0) })

/-- Opens the file under a path and empties it. -/
def create (path : String) : Except Fault OpenFile × Directory :=
  match directory.locate path with
  | .error fault => (.error fault, directory)
  | .ok (route, folder) =>
    match route.leaf with
    | none => (.error .isFolder, directory)
    | some leaf =>
      if route.trailingSlash then (.error .isFolder, directory)
      else if Route.maxComponent < leaf.utf8ByteSize then (.error .nameTooLong, directory)
      else directory.openEmpty (folder ++ [leaf])

/-- Writes to an open file. -/
def write : OpenFile → String → Except Fault Unit × Directory
  | .fullDevice, _ => (.error .noSpace, directory)
  | .nullDevice, _ => (.ok (), directory)
  | .cursor index, text =>
    match directory.cursors[index]? with
    | none => (.ok (), directory)
    | some (content, place) =>
      let bytes := text.toUTF8
      (.ok (),
        { directory with
          contents := directory.contents.modify content fun old => overwrite old place bytes
          cursors := directory.cursors.setIfInBounds index (content, place + bytes.size) })

/-- The bytes of what stands under a path.  There is no end to what the full device would give. -/
def bytesOf : Entry → Except Fault ByteArray
  | .folder => .error .isFolder
  | .fullDevice => .error .noSpace
  | .nullDevice => .ok ByteArray.empty
  | .file content => .ok (directory.contents[content]?.getD ByteArray.empty)

/-- The bytes of the file under a path. -/
def readBytes (path : String) : Except Fault ByteArray := do
  let (route, folder) ← directory.locate path
  match route.leaf with
  | none => .error .isFolder
  | some leaf =>
    if Route.maxComponent < leaf.utf8ByteSize then .error .nameTooLong
    else
      match directory.entry? (folder ++ [leaf]) with
      | none => .error .notFound
      | some .folder => .error .isFolder
      | some entry =>
        if route.trailingSlash then .error .notFolder else directory.bytesOf entry

/-- The text of the file under a path. -/
def readText (path : String) : Except Fault String := do
  let bytes ← directory.readBytes path
  match String.fromUTF8? bytes with
  | some text => .ok text
  | none => .error .notText

instance : FileSystem Directory OpenFile where
  create path directory := directory.create path
  write file text directory := directory.write file text
  read path directory := directory.readText path

/-! ## Preparing and listing -/

/-- Makes the folders that a row of components names, where they do not exist. -/
def makeFolders : Directory → List String → List String → Directory
  | directory, _, [] => directory
  | directory, here, component :: rest =>
    if component = "." then makeFolders directory here rest
    else if component = ".." then makeFolders directory (Route.above here) rest
    else
      let here := here ++ [component]
      match directory.entry? here with
      | some _ => makeFolders directory here rest
      | none =>
        let grown := { directory with entries := directory.entries ++ [(here, .folder)] }
        makeFolders grown here rest

/-- Makes the folder under a path, and those above it. -/
def makeFolder (path : String) : Directory :=
  let route := Route.ofPath path
  directory.makeFolders route.start (route.parents ++ route.leaf.toList)

/-- Makes the folders in which a path stands. -/
def makeParents (path : String) : Directory :=
  let route := Route.ofPath path
  directory.makeFolders route.start route.parents

/-- Puts bytes under a path, in the place of those that were there.  Nothing changes when no file
can stand there. -/
def put (path : String) (bytes : ByteArray) : Directory :=
  match directory.create path with
  | (.ok (.cursor index), directory) =>
    match directory.cursors[index]? with
    | some (content, _) =>
      { directory with contents := directory.contents.setIfInBounds content bytes }
    | none => directory
  | (_, directory) => directory

/-- Takes the file under a path away. -/
def remove (path : String) : Directory :=
  match directory.locate path with
  | .ok (route, folder) =>
    { directory with
      entries := directory.entries.filter fun entry =>
        entry.1 ≠ folder ++ route.leaf.toList }
  | .error _ => directory

/-- The files below the working folder with their bytes, each under its components from there,
joined by slashes. -/
def files : List (String × ByteArray) :=
  directory.entries.filterMap fun entry =>
    match entry.2 with
    | .file content =>
      if Route.workingFolder.isPrefixOf entry.1 then
        some ("/".intercalate (entry.1.drop Route.workingFolder.length),
          directory.contents[content]?.getD ByteArray.empty)
      else none
    | _ => none

/-- Two dots lead out of the working folder, and what is made there is not listed. -/
example : (create {} "./a").2.files.map Prod.fst = ["a"] ∧
    (create {} "../a").2.files.map Prod.fst = [] ∧ (create {} "../a").2.holds "/tmp/a" := by
  decide +kernel

end Directory

end Inflight.Storage
