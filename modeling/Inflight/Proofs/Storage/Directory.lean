import Inflight.Proofs.Storage.Filing
import Inflight.Storage.Directory

/-!
# Files in the working folder

A path of one component names a file in the working folder.  A directory in
which no two such names share their bytes keeps these files apart: opening one
empties its bytes, and a write where the last one ended makes them longer
(`Directory.filing`).
-/

namespace Inflight.Storage

set_option autoImplicit false

/-! ## Plain paths -/

/-- A path that is one component. -/
def Route.Plain (path : String) : Prop :=
  path ≠ "" ∧ path ≠ "." ∧ path ≠ ".." ∧ '/' ∉ path.toList

instance (path : String) : Decidable (Route.Plain path) :=
  inferInstanceAs (Decidable (_ ∧ _))

/-- The route of a plain path. -/
def Route.ofPlain (path : String) : Route where
  start := workingFolder
  parents := []
  leaf := some path
  trailingSlash := false

namespace Directory

open Route (Plain)

/-- The components of a plain path from the root. -/
def place (path : String) : List String := Route.workingFolder ++ [path]

theorem place_inj {path other : String} (same : place path = place other) : path = other := by
  simpa [place] using same

/-- Checks that a plain path is short enough to be followed. -/
def checkName (path : String) : Except Fault Unit :=
  match Route.checkPath path with
  | .error fault => .error fault
  | .ok () => if Route.maxComponent < path.utf8ByteSize then .error .nameTooLong else .ok ()

section Plain

variable {path : String} (plain : Plain path) (directory : Directory)

include plain

theorem ofPath_of_plain : Route.ofPath path = Route.ofPlain path := by
  obtain ⟨something, notDot, notDots, noSlash⟩ := plain
  have parts : (path.toList.splitOn '/').map String.ofList = [path] := by
    rw [List.splitOn_eq_singleton noSlash, List.map_singleton, String.ofList_toList]
  simp [Route.ofPath, Route.ofPlain, parts, something, notDot, notDots]

theorem locate_of_plain : directory.locate path =
    (Route.checkPath path).map fun _ => (Route.ofPlain path, Route.workingFolder) := by
  unfold locate
  rw [ofPath_of_plain plain]
  cases Route.checkPath path <;> rfl

theorem create_of_plain : directory.create path =
    match checkName path with
    | .error fault => (.error fault, directory)
    | .ok () => directory.openEmpty (place path) := by
  unfold create checkName
  rw [locate_of_plain plain]
  cases Route.checkPath path with
  | error fault => rfl
  | ok done =>
    by_cases long : Route.maxComponent < path.utf8ByteSize
    · simp [long, Except.map, Route.ofPlain]
    · simp [long, Except.map, place, Route.ofPlain]

theorem readBytes_of_plain : directory.readBytes path =
    match checkName path, directory.entry? (place path) with
    | .error fault, _ => .error fault
    | .ok (), none => .error .notFound
    | .ok (), some entry => directory.bytesOf entry := by
  unfold readBytes checkName
  rw [locate_of_plain plain]
  cases Route.checkPath path with
  | error fault => rfl
  | ok done =>
    by_cases long : Route.maxComponent < path.utf8ByteSize
    · simp [long, Except.map, bind, Except.bind, Route.ofPlain]
    · simp only [Except.map, bind, Except.bind, if_neg long, ← place.eq_1, Route.ofPlain]
      cases directory.entry? (place path) with
      | none => rfl
      | some entry => cases entry <;> rfl

/-- What is read under a plain path is told by what stands there and by its bytes. -/
theorem readText_congr {later : Directory}
    (entry : later.entry? (place path) = directory.entry? (place path))
    (bytes : ∀ entry, directory.entry? (place path) = some entry →
      later.bytesOf entry = directory.bytesOf entry) :
    later.readText path = directory.readText path := by
  have same : later.readBytes path = directory.readBytes path := by
    rw [readBytes_of_plain plain, readBytes_of_plain plain, entry]
    cases checkName path with
    | error fault => rfl
    | ok done =>
      cases here : directory.entry? (place path) with
      | none => rfl
      | some stands => exact bytes stands here
  rw [readText, readText, same]

theorem readText_eq_ok_iff {content : Nat} {bytes : ByteArray} {text : String}
    (entry : directory.entry? (place path) = some (.file content))
    (holds : directory.contents[content]? = some bytes) :
    directory.readText path = .ok text ↔ checkName path = .ok () ∧ bytes = text.toByteArray := by
  have here : directory.bytesOf (.file content) = .ok bytes := by rw [bytesOf, holds]; rfl
  unfold readText
  rw [readBytes_of_plain plain, entry]
  cases checkName path with
  | error fault => simp [bind, Except.bind]
  | ok done =>
    simp only [here, bind, Except.bind, String.fromUTF8?]
    by_cases valid : bytes.IsValidUTF8
    · simp [valid, String.fromUTF8, ← String.toByteArray_inj]
    · have not_text : bytes ≠ text.toByteArray := fun same => valid (same ▸ text.isValidUTF8)
      simp [valid, not_text]

/-- A file under a plain path is read when it holds a text. -/
theorem read_of_file {content : Nat} {text : String} (named : checkName path = .ok ())
    (entry : directory.entry? (place path) = some (.file content))
    (holds : directory.contents[content]? = some text.toByteArray) :
    FileSystem.read path directory = .ok text :=
  (readText_eq_ok_iff plain directory entry holds).mpr ⟨named, rfl⟩

end Plain

/-! ## Opening and writing -/

theorem overwrite_size (bytes text : ByteArray) :
    overwrite bytes bytes.size text = bytes ++ text := by
  have gap : ByteArray.mk (Array.replicate (bytes.size - bytes.size) 0) = ByteArray.empty := by
    rw [Nat.sub_self]
    rfl
  unfold overwrite
  rw [gap, ByteArray.extract_zero_size, ByteArray.extract_add_left, ByteArray.append_empty,
    ByteArray.append_empty]

theorem entry?_congr {directory later : Directory} (same : later.entries = directory.entries) :
    later.entry? = directory.entry? := by
  funext components
  unfold entry?
  rw [same]

/-- A new entry is found under its components, and the others as before. -/
theorem entry?_concat {directory later : Directory} {components : List String} {entry : Entry}
    (new : directory.entry? components = none)
    (grown : later.entries = directory.entries ++ [(components, entry)]) (other : List String) :
    later.entry? other = if other = components then some entry else directory.entry? other := by
  unfold entry? at new ⊢
  rw [grown, ← List.append_assoc, List.lookup_append]
  by_cases same : other = components
  · subst same
    simp [new]
  · simp [List.lookup_cons, beq_false_of_ne same, same]

/-- No two plain names share their bytes, and none is that of a device. -/
structure Apart (directory : Directory) : Prop where
  stands : ∀ path, Plain path → ∀ entry, directory.entry? (place path) = some entry →
    entry = .folder ∨ ∃ content < directory.contents.size, entry = .file content
  distinct : ∀ path other content, Plain path → Plain other →
    directory.entry? (place path) = some (.file content) →
    directory.entry? (place other) = some (.file content) → path = other

/-- The next write to an open file goes to the end of the file under a path. -/
def WritesBehind (directory : Directory) (file : OpenFile) (path : String) : Prop :=
  ∃ content index bytes, file = .cursor index ∧
    directory.entry? (place path) = some (.file content) ∧
    directory.contents[content]? = some bytes ∧
    directory.cursors[index]? = some (content, bytes.size)

/-- Other bytes in the place of those of one file change what is read under its own name only. -/
theorem readText_apart {directory later : Directory} {path other : String} {content : Nat}
    (apart : directory.Apart) (plain : Plain path) (otherPlain : Plain other)
    (differs : other ≠ path) (entry : directory.entry? (place path) = some (.file content))
    (entries : later.entry? (place other) = directory.entry? (place other))
    (same : ∀ place, place ≠ content → later.contents[place]? = directory.contents[place]?) :
    later.readText other = directory.readText other := by
  refine readText_congr otherPlain directory entries fun stands here => ?_
  cases stands with
  | file place =>
    have away : place ≠ content := by
      rintro rfl
      exact differs (apart.distinct other path place otherPlain plain here entry)
    rw [bytesOf, bytesOf, same place away]
  | _ => rfl

theorem Apart.of_entries {directory later : Directory} (apart : directory.Apart)
    (entries : later.entries = directory.entries)
    (size : later.contents.size = directory.contents.size) : later.Apart := by
  have same := entry?_congr entries
  constructor
  · rw [same, size]
    exact apart.stands
  · rw [same]
    exact apart.distinct

/-- A name that is new gets bytes of its own. -/
theorem Apart.of_new {directory later : Directory} {path : String} (apart : directory.Apart)
    (new : directory.entry? (place path) = none)
    (entries : later.entries =
      directory.entries ++ [(place path, .file directory.contents.size)])
    (size : later.contents.size = directory.contents.size + 1) : later.Apart := by
  have stands := entry?_concat new entries
  have old : ∀ {other content}, Plain other → other ≠ path →
      later.entry? (place other) = some (.file content) →
        directory.entry? (place other) = some (.file content) ∧
          content < directory.contents.size := by
    intro other content otherPlain differs here
    rw [stands, if_neg fun same => differs (place_inj same)] at here
    obtain impossible | ⟨earlier, inside, same⟩ := apart.stands other otherPlain _ here
    · cases impossible
    · cases same
      exact ⟨here, inside⟩
  have own : ∀ {content}, later.entry? (place path) = some (.file content) →
      content = directory.contents.size := by
    intro content here
    rw [stands, if_pos rfl] at here
    cases here
    rfl
  constructor
  · intro other otherPlain entry here
    rw [stands] at here
    split at here
    · cases here
      exact .inr ⟨_, by omega, rfl⟩
    · obtain folder | ⟨content, inside, same⟩ := apart.stands other otherPlain entry here
      · exact .inl folder
      · exact .inr ⟨content, by omega, same⟩
  · intro first second content firstPlain secondPlain here there
    by_cases one : first = path
    · by_cases two : second = path
      · rw [one, two]
      · have inside := (old secondPlain two there).2
        rw [one] at here
        exact absurd (own here) (Nat.ne_of_lt inside)
    · by_cases two : second = path
      · have inside := (old firstPlain one here).2
        rw [two] at there
        exact absurd (own there) (Nat.ne_of_lt inside)
      · exact apart.distinct first second content firstPlain secondPlain
          (old firstPlain one here).1 (old secondPlain two there).1

/-- An opening that fails changes nothing. -/
theorem create_of_error {directory later : Directory} {path : String} {cause : Fault}
    (refused : directory.create path = (.error cause, later)) : later = directory := by
  have kept : ∀ components fault, directory.openEmpty components = (.error fault, later) →
      later = directory := by
    intro components fault opened
    unfold openEmpty at opened
    split at opened <;> cases opened
    rfl
  unfold create at refused
  split at refused
  · cases refused
    rfl
  · split at refused
    · cases refused
      rfl
    · split at refused
      · cases refused
        rfl
      · split at refused
        · cases refused
          rfl
        · exact kept _ _ refused

/-- A file that was just opened holds nothing, and the next write to it goes to its end. -/
theorem opened_of_empty {later : Directory} {path : String} {content index : Nat}
    (plain : Plain path) (named : checkName path = .ok ())
    (entry : later.entry? (place path) = some (.file content))
    (holds : later.contents[content]? = some ByteArray.empty)
    (cursor : later.cursors[index]? = some (content, 0)) :
    WritesBehind later (.cursor index) path ∧ later.readText path = .ok "" :=
  ⟨⟨content, index, ByteArray.empty, rfl, entry, holds, cursor⟩,
    (readText_eq_ok_iff plain later entry holds).mpr ⟨named, rfl⟩⟩

/-- The file under a plain path is empty and written at its end, and the others are as before. -/
def Emptied (directory : Directory) (file : OpenFile) (path : String) (later : Directory) : Prop :=
  later.Apart ∧ WritesBehind later file path ∧ later.readText path = .ok "" ∧
    ∀ other, Plain other → other ≠ path → later.readText other = directory.readText other

theorem openEmpty_of_new {directory later : Directory} {path : String} {file : OpenFile}
    (plain : Plain path) (named : checkName path = .ok ()) (apart : directory.Apart)
    (stands : directory.entry? (place path) = none)
    (opened : directory.openEmpty (place path) = (.ok file, later)) :
    Emptied directory file path later := by
  unfold openEmpty at opened
  rw [stands] at opened
  obtain ⟨⟨⟩, made⟩ := Prod.mk.inj opened
  have grown : later.entries =
      directory.entries ++ [(place path, .file directory.contents.size)] := by rw [← made]
  have contents : later.contents = directory.contents.push .empty := by rw [← made]
  have cursors : later.cursors = directory.cursors.push (directory.contents.size, 0) := by
    rw [← made]
  have entries := entry?_concat stands grown
  have own : later.entry? (place path) = some (.file directory.contents.size) := by
    rw [entries, if_pos rfl]
  have holds : later.contents[directory.contents.size]? = some .empty := by simp [contents]
  have cursor : later.cursors[directory.cursors.size]? = some (directory.contents.size, 0) := by
    simp [cursors]
  obtain ⟨behind, emptied⟩ := opened_of_empty plain named own holds cursor
  refine ⟨apart.of_new stands grown (by simp [contents]), behind, emptied, ?_⟩
  intro other otherPlain differs
  have kept := entries (place other)
  rw [if_neg fun same => differs (place_inj same)] at kept
  refine readText_congr otherPlain directory kept fun entry here => ?_
  obtain rfl | ⟨content, inside, rfl⟩ := apart.stands other otherPlain entry here
  · rfl
  · simp [bytesOf, contents, Array.getElem?_push, Nat.ne_of_lt inside]

theorem openEmpty_of_file {directory later : Directory} {path : String} {file : OpenFile}
    {content : Nat} (plain : Plain path) (named : checkName path = .ok ()) (apart : directory.Apart)
    (stands : directory.entry? (place path) = some (.file content))
    (inside : content < directory.contents.size)
    (opened : directory.openEmpty (place path) = (.ok file, later)) :
    Emptied directory file path later := by
  unfold openEmpty at opened
  rw [stands] at opened
  obtain ⟨⟨⟩, made⟩ := Prod.mk.inj opened
  have entries : later.entries = directory.entries := by rw [← made]
  have contents : later.contents = directory.contents.setIfInBounds content .empty := by
    rw [← made]
  have cursors : later.cursors = directory.cursors.push (content, 0) := by rw [← made]
  have same : later.entry? = directory.entry? := entry?_congr entries
  have holds : later.contents[content]? = some .empty := by simp [contents, inside]
  have cursor : later.cursors[directory.cursors.size]? = some (content, 0) := by simp [cursors]
  obtain ⟨behind, emptied⟩ := opened_of_empty plain named (same ▸ stands) holds cursor
  refine ⟨apart.of_entries entries (by simp [contents]), behind, emptied, ?_⟩
  intro other otherPlain differs
  refine readText_apart apart plain otherPlain differs stands (by rw [same]) ?_
  intro place away
  rw [contents, Array.getElem?_setIfInBounds_ne (Ne.symm away)]

/-- What the opening of a plain name does. -/
theorem create_of_ok {directory later : Directory} {path : String} {file : OpenFile}
    (plain : Plain path) (apart : directory.Apart)
    (created : directory.create path = (.ok file, later)) :
    Emptied directory file path later := by
  rw [create_of_plain plain] at created
  cases named : checkName path with
  | error fault =>
    rw [named] at created
    cases created
  | ok done =>
    rw [named] at created
    cases stands : directory.entry? (place path) with
    | none => exact openEmpty_of_new plain named apart stands created
    | some entry =>
      obtain rfl | ⟨content, inside, rfl⟩ := apart.stands path plain entry stands
      · simp [openEmpty, stands] at created
      · exact openEmpty_of_file plain named apart stands inside created

/-- What a write to the end of the file of a plain name does. -/
theorem write_of_behind {directory : Directory} {path text old : String} {file : OpenFile}
    (plain : Plain path) (apart : directory.Apart) (behind : directory.WritesBehind file path)
    (before : directory.readText path = .ok old) :
    ∃ later, directory.write file text = (.ok (), later) ∧ later.Apart ∧
      later.WritesBehind file path ∧ later.readText path = .ok (old ++ text) ∧
      ∀ other, Plain other → other ≠ path → later.readText other = directory.readText other := by
  obtain ⟨content, index, bytes, rfl, entry, holds, cursor⟩ := behind
  obtain ⟨named, rfl⟩ := (readText_eq_ok_iff plain directory entry holds).mp before
  let later : Directory := { directory with
    contents := directory.contents.modify content fun bytes =>
      overwrite bytes old.toByteArray.size text.toUTF8
    cursors := directory.cursors.setIfInBounds index
      (content, old.toByteArray.size + text.toUTF8.size) }
  have written : directory.write (.cursor index) text = (.ok (), later) := by
    simp only [write, cursor, later]
  have longer : later.contents[content]? = some (old ++ text).toByteArray := by
    rw [Array.getElem?_modify, if_pos rfl, holds, Option.map_some, overwrite_size,
      String.toByteArray_append, String.toUTF8_eq_toByteArray]
  have moved : later.cursors[index]? = some (content, (old ++ text).toByteArray.size) := by
    have inside := (Array.getElem?_eq_some_iff.mp cursor).1
    simp [later, inside]
  refine ⟨later, written, apart.of_entries rfl (by simp [later]),
    ⟨content, index, _, rfl, entry, longer, moved⟩,
    (readText_eq_ok_iff plain later entry longer).mpr ⟨named, rfl⟩, ?_⟩
  intro other otherPlain differs
  refine readText_apart apart plain otherPlain differs entry rfl ?_
  intro place away
  rw [Array.getElem?_modify, if_neg (Ne.symm away)]

/-- A directory files the plain names. -/
def filing : Filing Directory OpenFile Plain where
  sound := Apart
  appends := WritesBehind
  create_error sound refused := by
    obtain rfl := create_of_error refused
    exact ⟨sound, fun _ _ => rfl⟩
  create_ok plain sound created := create_of_ok plain sound created
  write_ok plain sound behind before _ := write_of_behind plain sound behind before

/-- Where nothing stands, all names are apart. -/
theorem apart_empty : Apart {} := by
  have nothing : ∀ path, entry? {} (place path) = none := by
    intro path
    unfold entry?
    simp [fixedEntries, place, Route.workingFolder, List.lookup_cons]
  constructor
  · intro path _ entry here
    rw [nothing] at here
    cases here
  · intro path other content _ _ here
    rw [nothing] at here
    cases here

end Directory

end Inflight.Storage
