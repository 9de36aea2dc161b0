import Highlight.Proofs.Files.Place

/-!
# What stands at the place of a path

A path that leads to a place is read, written, removed and renamed by what stands there: each
operation either finds a folder in its way or does what it is asked for.
-/

namespace Highlight.Files

variable {files : Files} {path target : Text} {place goal : Place} {content : ByteArray}

/-- What succeeds after a place was found. -/
theorem exists_of_bind {α β : Type} {found : Except Failure α} {act : α → Except Failure β} {b : β}
    (h : found >>= act = .ok b) : ∃ a, found = .ok a ∧ act a = .ok b := by
  cases found with
  | error failure => cases h
  | ok a => exact ⟨a, rfl, h⟩

/-- A file that is put at a place is taken out with the place. -/
theorem erase_put (files : Files) (place : Place) (content : ByteArray) :
    (files.put place (.file content)).erase place = files.erase place := by
  by_cases free : files.Free place
  · have still : (files.put place (.file content)).Free place :=
      ⟨(Keeps.put content free.2).folders _ free.1, by simp [at?_put_self free]⟩
    unfold erase
    rw [dif_pos free, dif_pos still]
    simp [put, dif_pos free, others]
  · rw [put_of_not_free free]

/-- Taking something out puts no folder anywhere. -/
theorem at?_erase_ne_folder {elsewhere : Place} (h : files.at? elsewhere ≠ some .folder)
    (place : Place) : (files.erase place).at? elsewhere ≠ some .folder := by
  by_cases same : elsewhere = place
  · subst same
    rw [files.at?_erase_self h]
    exact (Option.some_ne_none _).symm
  · rwa [files.at?_erase_of_ne same]

/-- Putting a file puts no folder anywhere. -/
theorem at?_put_ne_folder {elsewhere : Place} (h : files.at? elsewhere ≠ some .folder)
    (place : Place) (content : ByteArray) :
    (files.put place (.file content)).at? elsewhere ≠ some .folder := by
  by_cases same : elsewhere = place
  · subst same
    by_cases free : files.Free elsewhere
    · simp [at?_put_self free]
    · rwa [put_of_not_free free]
  · rwa [files.at?_put_of_ne _ same]

/-- Taking a file out leaves free what is. -/
theorem Free.erase {elsewhere : Place} (free : files.Free elsewhere)
    (h : files.at? place ≠ some .folder) : (files.erase place).Free elsewhere :=
  ⟨(Keeps.erase h).folders _ free.1, at?_erase_ne_folder free.2 place⟩

/-- A file is read where it stands. -/
theorem read_eq_ok (located : files.locate path = .ok place) :
    files.read path = .ok content ↔ files.at? place = some (.file content) := by
  unfold read
  rw [located]
  simp only [bind, Except.bind]
  split
  · next there => simp [there]
  · next there => simp [there]
  · next there => simp [there]

theorem locate_of_read (h : files.read path = .ok content) :
    ∃ place, files.locate path = .ok place ∧ files.at? place = some (.file content) := by
  obtain ⟨place, located, _⟩ := exists_of_bind h
  exact ⟨place, located, (read_eq_ok located).mp h⟩

/-- What is read depends on what stands at the place. -/
theorem read_congr {other : Files} (located : files.locate path = .ok place)
    (located' : other.locate path = .ok place) (same : files.at? place = other.at? place) :
    files.read path = other.read path := by
  unfold read
  rw [located, located']
  simp only [bind, Except.bind, same]

/-- There is nothing to be read on a path that leads nowhere. -/
theorem read_of_locate_error {failure : Failure} (h : files.locate path = .error failure) :
    files.read path = .error failure := by
  unfold read
  rw [h]
  rfl

/-- There is nothing to be read where nothing stands. -/
theorem read_of_none (located : files.locate path = .ok place) (h : files.at? place = none) :
    files.read path = .error .noEntry := by
  unfold read
  rw [located]
  simp only [bind, Except.bind, h]

/-- A folder cannot be read. -/
theorem read_of_folder (located : files.locate path = .ok place)
    (h : files.at? place = some .folder) : files.read path = .error .isFolder := by
  unfold read
  rw [located]
  simp only [bind, Except.bind, h]

theorem remove_of_read (h : files.read path = .ok content)
    (located : files.locate path = .ok place) : files.remove path = .ok (files.erase place) := by
  have there := (read_eq_ok located).mp h
  unfold remove
  rw [located]
  simp only [bind, Except.bind, there]

/-- A file is written where there is no folder. -/
theorem write_of_ne_folder (located : files.locate path = .ok place)
    (h : files.at? place ≠ some .folder) (content : ByteArray) :
    files.write path content = .ok (files.put place (.file content)) := by
  unfold write
  rw [located]
  simp only [bind, Except.bind]

/-- Where a path leads to a folder or nowhere, nothing can be written, whatever it is. -/
theorem write_error_congr {failure : Failure} (h : files.write path content = .error failure)
    (other : ByteArray) : files.write path other = .error failure := by
  unfold write at h ⊢
  cases located : files.locate path with
  | error failure =>
    rw [located] at h
    exact h
  | ok place =>
    rw [located] at h
    simp only [bind, Except.bind] at h ⊢
    split at h
    · exact h
    · cases h

/-- What cannot be written cannot be removed. -/
theorem remove_of_write_error {failure : Failure} (h : files.write path content = .error failure) :
    files.remove path = .error failure := by
  unfold write at h
  unfold remove
  cases located : files.locate path with
  | error failure =>
    rw [located] at h
    cases h
    rfl
  | ok place =>
    rw [located] at h
    simp only [bind, Except.bind] at h ⊢
    split at h
    · next standing =>
      rw [standing]
      exact h
    · cases h

/-- A file takes the place of what it is renamed to, unless that is a folder. -/
theorem rename_of_ne_folder (located : files.locate path = .ok place)
    (goes : files.locate target = .ok goal) (h : files.at? place = some (.file content))
    (free : files.at? goal ≠ some .folder) :
    files.rename path target = .ok ((files.erase place).put goal (.file content)) := by
  unfold rename
  rw [located, goes]
  simp only [bind, Except.bind, h]

/-- A file that was put at the place of a path is removed by the path. -/
theorem remove_put (located : files.locate path = .ok place) (free : files.Free place)
    (content : ByteArray) :
    (files.put place (.file content)).remove path = .ok (files.erase place) := by
  have still := (Keeps.put content free.2).locate located
  have read := (read_eq_ok still).mpr (at?_put_self free _)
  rw [remove_of_read read still, erase_put]

/-! ## What an operation that succeeds has done -/

/-- Writing puts a file where there was no folder. -/
theorem write_eq_ok {written : Files} (h : files.write path content = .ok written) :
    ∃ place, files.locate path = .ok place ∧ files.Free place ∧
      written = files.put place (.file content) := by
  obtain ⟨place, located, h⟩ := exists_of_bind h
  split at h
  · cases h
  · next free => exact ⟨place, located, free_of_locate located free, (Except.ok.inj h).symm⟩

/-- Renaming takes a file out and puts it where there was no folder. -/
theorem rename_eq_ok {renamed : Files} (h : files.rename path target = .ok renamed) :
    ∃ place goal content, files.locate path = .ok place ∧ files.locate target = .ok goal ∧
      files.at? place = some (.file content) ∧ files.at? goal ≠ some .folder ∧
      renamed = (files.erase place).put goal (.file content) := by
  obtain ⟨place, located, h⟩ := exists_of_bind h
  obtain ⟨goal, goes, h⟩ := exists_of_bind h
  cases there : files.at? place with
  | none =>
    rw [there] at h
    cases h
  | some entry =>
    cases entry with
    | folder =>
      rw [there] at h
      cases h
    | file content =>
      refine ⟨place, goal, content, located, goes, there, ?_⟩
      rw [there] at h
      split at h
      · cases h
      · cases h
      · cases h
      · next same free =>
        cases same
        exact ⟨free, (Except.ok.inj h).symm⟩

end Highlight.Files
