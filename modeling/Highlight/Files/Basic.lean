import Highlight.Files.Failure
import Highlight.Files.Path

/-!
# Files

A tree of folders and files as a value: the entries by the names on the way from the root. The root
is a folder without being listed. Whatever is listed stands in a folder, so nothing may be put where
no folder is above it, and no folder may be replaced or taken out. Operations fail as those of a Unix
system do, which is what decides the wording of an error and whether a cache can be written.
-/

namespace Highlight

/-- What stands at a place of the tree. -/
inductive Entry where
  | folder
  | file (content : ByteArray)

instance : DecidableEq Entry
  | .folder, .folder => isTrue rfl
  | .folder, .file _ => isFalse Entry.noConfusion
  | .file _, .folder => isFalse Entry.noConfusion
  | .file content, .file other =>
    decidable_of_iff (content.data = other.data)
      ⟨fun same => congrArg Entry.file (ByteArray.ext same), fun same => by cases same; rfl⟩

/-- The names on the way from the root to an entry. -/
abbrev Place := List Text

namespace Files

/-- What stands at a place by a list of entries, the latest first. -/
def standing (entries : List (Place × Entry)) (place : Place) : Option Entry :=
  if place = [] then some .folder else entries.lookup place

/-- The entries but for those at a place. -/
def others (entries : List (Place × Entry)) (place : Place) : List (Place × Entry) :=
  entries.filter fun entry => entry.1 != place

variable {entries : List (Place × Entry)} {place other : Place}

@[simp] theorem standing_nil (entries : List (Place × Entry)) :
    standing entries [] = some .folder := by
  simp [standing]

/-- What is no folder is not the root. -/
theorem ne_nil_of_standing_ne (h : standing entries place ≠ some .folder) : place ≠ [] := by
  rintro rfl
  exact h (standing_nil entries)

theorem standing_others_self (entries : List (Place × Entry)) (h : place ≠ []) :
    standing (others entries place) place = none := by
  rw [standing, if_neg h, others, List.lookup_eq_none_iff]
  intro entry mem
  have differs : (entry.1 != place) = true := (List.mem_filter.mp mem).2
  rwa [bne_comm] at differs

theorem standing_others_of_ne (entries : List (Place × Entry)) (h : other ≠ place) :
    standing (others entries place) other = standing entries other := by
  have kept : (others entries place).lookup other = entries.lookup other := by
    unfold others
    induction entries with
    | nil => rfl
    | cons head entries ih =>
      obtain ⟨key, value⟩ := head
      by_cases same : key = place
      · have differs : (other == key) = false := by simpa [same] using h
        rw [List.filter_cons_of_neg (by simp [same]), List.lookup_cons, differs]
        exact ih
      · rw [List.filter_cons_of_pos (by simp [same]), List.lookup_cons, List.lookup_cons, ih]
  rw [standing, kept, standing]

theorem standing_cons_self (entries : List (Place × Entry)) (entry : Entry) (h : place ≠ []) :
    standing ((place, entry) :: entries) place = some entry := by
  simp [standing, h]

theorem standing_cons_of_ne (entries : List (Place × Entry)) (entry : Entry) (h : other ≠ place) :
    standing ((place, entry) :: entries) other = standing entries other := by
  have differs : (other == place) = false := by simpa using h
  simp [standing, List.lookup_cons, differs]

/-- A folder is where it was, if what is taken out was none. -/
theorem standing_others_folder (free : standing entries place ≠ some .folder)
    (h : standing entries other = some .folder) :
    standing (others entries place) other = some .folder := by
  have differs : other ≠ place := fun same => free (same ▸ h)
  rw [standing_others_of_ne entries differs, h]

/-- A folder is where it was, if what is replaced was none. -/
theorem standing_cons_folder (free : standing entries place ≠ some .folder) (entry : Entry)
    (h : standing entries other = some .folder) :
    standing ((place, entry) :: others entries place) other = some .folder := by
  have differs : other ≠ place := fun same => free (same ▸ h)
  rw [standing_cons_of_ne _ entry differs, standing_others_of_ne entries differs, h]

/-- Whether whatever is listed stands in a folder. -/
def Inside (entries : List (Place × Entry)) : Prop :=
  ∀ entry ∈ entries, standing entries entry.1.dropLast = some .folder

instance (entries : List (Place × Entry)) : Decidable (Inside entries) :=
  inferInstanceAs (Decidable (∀ entry ∈ entries, standing entries entry.1.dropLast = some .folder))

theorem Inside.others (inside : Inside entries) (free : standing entries place ≠ some .folder) :
    Inside (others entries place) :=
  fun entry mem => standing_others_folder free (inside entry (List.mem_filter.mp mem).1)

theorem Inside.cons (inside : Inside entries) (free : standing entries place ≠ some .folder)
    (above : standing entries place.dropLast = some .folder) (entry : Entry) :
    Inside ((place, entry) :: Files.others entries place) := by
  intro listed mem
  rcases List.mem_cons.mp mem with rfl | old
  · exact standing_cons_folder free entry above
  · exact standing_cons_folder free entry (inside listed (List.mem_filter.mp old).1)

end Files

/-- A tree of files. -/
structure Files where
  /-- The entries by their places, the latest first. -/
  entries : List (Place × Entry) := []
  /-- The place where relative paths start. -/
  working : Place := []
  inside : Files.Inside entries := by decide
  /-- Relative paths start in a folder. -/
  started : Files.standing entries working = some .folder := by decide

namespace Files

/-- The greatest number of bytes in a name. -/
def nameLimit : Nat := 255

/-- The least number of bytes that no path can have. -/
def pathLimit : Nat := 4096

variable {files : Files} {place other : Place}

/-- What stands at a place. -/
def at? (files : Files) (place : Place) : Option Entry := standing files.entries place

/-- Whether a file may be put at a place or be taken from it: the place is in a folder, and no
folder stands there. -/
def Free (files : Files) (place : Place) : Prop :=
  files.at? place.dropLast = some .folder ∧ files.at? place ≠ some .folder

instance (files : Files) (place : Place) : Decidable (files.Free place) :=
  inferInstanceAs (Decidable (files.at? place.dropLast = some .folder ∧
    files.at? place ≠ some .folder))

/-- The tree without the file at a place. -/
def erase (files : Files) (place : Place) : Files :=
  if free : files.Free place then
    { files with
      entries := others files.entries place
      inside := files.inside.others free.2
      started := standing_others_folder free.2 files.started }
  else files

/-- The tree with an entry at a place, in place of the file that was there. -/
def put (files : Files) (place : Place) (entry : Entry) : Files :=
  if free : files.Free place then
    { files with
      entries := (place, entry) :: others files.entries place
      inside := files.inside.cons free.2 free.1 entry
      started := standing_cons_folder free.2 entry files.started }
  else files

@[simp] theorem working_erase (files : Files) (place : Place) :
    (files.erase place).working = files.working := by
  unfold erase
  split <;> rfl

@[simp] theorem working_put (files : Files) (place : Place) (entry : Entry) :
    (files.put place entry).working = files.working := by
  unfold put
  split <;> rfl

@[simp] theorem at?_nil (files : Files) : files.at? [] = some .folder := standing_nil _

/-- What is no folder is not the root. -/
theorem ne_nil_of_ne_folder (h : files.at? place ≠ some .folder) : place ≠ [] :=
  ne_nil_of_standing_ne h

/-- **Whatever stands somewhere stands in a folder.** -/
theorem at?_dropLast (h : files.at? place ≠ none) : files.at? place.dropLast = some .folder := by
  by_cases root : place = []
  · rw [root, List.dropLast_nil, at?_nil]
  · have listed : (files.entries.lookup place).isSome = true := by
      simpa [at?, standing, root, Option.isSome_iff_ne_none] using h
    obtain ⟨entry, mem, same⟩ := List.lookup_isSome_iff.mp listed
    rw [beq_iff_eq.mp same]
    exact files.inside entry mem

/-- A name in a folder is free where no folder has it. -/
theorem free_append {here : Place} (start : files.at? here = some .folder) (name : Text)
    (h : files.at? (here ++ [name]) ≠ some .folder) : files.Free (here ++ [name]) :=
  ⟨by rwa [List.dropLast_concat], h⟩

/-- Nothing is put where nothing may be put. -/
theorem put_of_not_free (h : ¬ files.Free place) (entry : Entry) : files.put place entry = files :=
  dif_neg h

theorem at?_erase_self (files : Files) (h : files.at? place ≠ some .folder) :
    (files.erase place).at? place = none := by
  unfold erase
  split
  · exact standing_others_self _ (ne_nil_of_ne_folder h)
  · next taken =>
    refine Classical.byContradiction fun there => taken ⟨at?_dropLast there, h⟩

theorem at?_erase_of_ne (files : Files) (h : other ≠ place) :
    (files.erase place).at? other = files.at? other := by
  unfold erase
  split
  · exact standing_others_of_ne _ h
  · rfl

theorem at?_put_self (free : files.Free place) (entry : Entry) :
    (files.put place entry).at? place = some entry := by
  unfold put
  rw [dif_pos free]
  exact standing_cons_self _ entry (ne_nil_of_ne_folder free.2)

theorem at?_put_of_ne (files : Files) (entry : Entry) (h : other ≠ place) :
    (files.put place entry).at? other = files.at? other := by
  unfold put
  split
  · exact (standing_cons_of_ne _ entry h).trans (standing_others_of_ne _ h)
  · rfl

/-- Follow names from a folder. Every name but the last has to lead to a folder; whether the last
one leads anywhere is not looked at. -/
def follow (files : Files) : Place → List Text → Except Failure Place
  | here, [] => .ok here
  | here, name :: rest =>
    if name = [] || name = ['.'] then files.follow here rest
    else if name = ['.', '.'] then files.follow here.dropLast rest
    else if nameLimit < name.byteSize then .error .nameTooLong
    else if rest = [] then .ok (here ++ [name])
    else match files.at? (here ++ [name]) with
      | some .folder => files.follow (here ++ [name]) rest
      | some (.file _) => .error .notFolder
      | none => .error .noEntry

/-- The place where a path starts and the names that follow, unless no path can be spelled so. -/
def start (files : Files) (path : Text) : Except Failure (Place × List Text) :=
  if path.contains '\x00' then .error .nulInPath
  else if path.isEmpty then .error .noEntry
  else if pathLimit ≤ path.byteSize then .error .nameTooLong
  else .ok (if Path.isAbsolute path then [] else files.working, path.splitOn '/')

/-- The place of a path. -/
def locate (files : Files) (path : Text) : Except Failure Place := do
  let (here, names) ← files.start path
  files.follow here names

/-- The content of a file. -/
def read (files : Files) (path : Text) : Except Failure ByteArray := do
  match files.at? (← files.locate path) with
  | some (.file content) => .ok content
  | some .folder => .error .isFolder
  | none => .error .noEntry

/-- The names in a folder. -/
def list (files : Files) (path : Text) : Except Failure (List Text) := do
  let place ← files.locate path
  match files.at? place with
  | some .folder =>
    .ok (files.entries.filterMap fun entry =>
      if entry.1.dropLast = place then entry.1.getLast? else none)
  | some (.file _) => .error .notFolder
  | none => .error .noEntry

/-- The tree with a file of the given content, in place of the file that was there. -/
def write (files : Files) (path : Text) (content : ByteArray) : Except Failure Files := do
  let place ← files.locate path
  match files.at? place with
  | some .folder => .error .isFolder
  | _ => .ok (files.put place (.file content))

/-- The tree without a file. -/
def remove (files : Files) (path : Text) : Except Failure Files := do
  let place ← files.locate path
  match files.at? place with
  | some (.file _) => .ok (files.erase place)
  | some .folder => .error .isFolder
  | none => .error .noEntry

/-- The tree with a file moved, in place of the file that was there. -/
def rename (files : Files) (path target : Text) : Except Failure Files := do
  let place ← files.locate path
  let goal ← files.locate target
  match files.at? place, files.at? goal with
  | none, _ => .error .noEntry
  | some .folder, _ => .error .isFolder
  | _, some .folder => .error .isFolder
  | some entry, _ => .ok ((files.erase place).put goal entry)

/-- Make the folders on the way along names that are missing. A folder that a final dot asks for has
to be there already. The tree is given back also when making fails half way. -/
def makeAlong (files : Files) : Place → List Text → Files × Except Failure Unit
  | _, [] => (files, .ok ())
  | here, name :: rest =>
    if name = [] || name = ['.'] then files.makeAlong here rest
    else if name = ['.', '.'] then files.makeAlong here.dropLast rest
    else if nameLimit < name.byteSize then (files, .error .nameTooLong)
    else match files.at? (here ++ [name]) with
      | some .folder => files.makeAlong (here ++ [name]) rest
      | some (.file _) => (files, .error (if rest = [] then .exists else .notFolder))
      | none =>
        if rest.contains ['.'] && rest.all (fun name => name = [] || name = ['.']) then
          (files, .error .noEntry)
        else (files.put (here ++ [name]) .folder).makeAlong (here ++ [name]) rest

/-- Make the folder of a path, and those above it, where they are missing. The empty path asks for
no folder. -/
def makeFolders (files : Files) (path : Text) : Files × Except Failure Unit :=
  if path.isEmpty then (files, .ok ())
  else match files.start path with
    | .error failure => (files, .error failure)
    | .ok (here, names) => files.makeAlong here names

end Files

end Highlight
