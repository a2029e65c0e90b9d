import Inflight.Storage.Basic

/-!
# Filing

What a log needs of a file system, for the files under some paths: each such
path has a file of its own, opening it empties it, and what is written to it
while it is open goes to its end and cannot fail.  An opening may fail, and then
it leaves all files as they were.  Nothing is said of other paths.
-/

namespace Inflight.Storage

set_option autoImplicit false

/-- A way in which a file system keeps the files under the named paths. -/
structure Filing (σ φ : Type) [FileSystem σ φ] (named : String → Prop) where
  /-- The states in which the named paths have files of their own. -/
  sound : σ → Prop
  /-- Whether the next write to an open file goes to the end of the file under a path. -/
  appends : σ → φ → String → Prop
  /-- An opening that fails leaves the files as they were. -/
  create_error {path : String} {files later : σ} {cause : Fault} :
    sound files → FileSystem.create path files = (.error cause, later) →
      sound later ∧ ∀ other, named other →
        FileSystem.read other later = FileSystem.read other files
  /-- An opening empties the file, and writes go to its end. -/
  create_ok {path : String} {files later : σ} {file : φ} :
    named path → sound files → FileSystem.create path files = (.ok file, later) →
      sound later ∧ appends later file path ∧ FileSystem.read path later = .ok "" ∧
        ∀ other, named other → other ≠ path →
          FileSystem.read other later = FileSystem.read other files
  /-- A write makes the file longer by its text. -/
  write_ok {path text old : String} {files : σ} {file : φ} :
    named path → sound files → appends files file path → FileSystem.read path files = .ok old →
      text ≠ "" → ∃ later, FileSystem.write file text files = (.ok (), later) ∧
        sound later ∧ appends later file path ∧ FileSystem.read path later = .ok (old ++ text) ∧
        ∀ other, named other → other ≠ path →
          FileSystem.read other later = FileSystem.read other files

end Inflight.Storage
