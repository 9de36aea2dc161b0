import Highlight.Proofs.Files.Origin
import Highlight.Proofs.Host
import Highlight.Proofs.Text.Decimal

/-!
# Entries of a file cache

A file is an entry if it is UTF-8 text whose first line is, blanks aside, the numeral of a second
(`IsEntry`); markup is held by an entry of a later second (`Holds`). Looking up a key answers what
its file holds and touches nothing, except that an entry past its time is removed
(`run_get_of_holds`, `run_get_of_past`, `run_get_of_not_isEntry`). Storing under a key, where the
folder can be made and written, succeeds, and then the file is the entry that was asked for
(`run_set`, `isEntry_stored`).
-/

namespace Highlight.FileCache

open Highlight.Path (IsName)

variable {machine : Machine} {files : Files} {folder key other path markup stamp : Text}
  {place : Place} {expiry now : Nat}

/-- Whether a file is an entry: text, the first line of which is the numeral of a second. -/
def IsEntry (files : Files) (path : Text) (expiry : Nat) (markup : Text) : Prop :=
  ∃ header : Text, files.read path = .ok (Text.toUtf8 (header ++ '\n' :: markup)) ∧
    '\n' ∉ header ∧ header.trim.toNumeral? = some expiry

/-- Whether a file holds markup: it is an entry of a second that is still to come. -/
def Holds (files : Files) (path : Text) (now : Nat) (markup : Text) : Prop :=
  ∃ expiry, IsEntry files path expiry markup ∧ now < expiry

/-! ## Names of files -/

theorem not_mem_of_isKey {c : Char} (h : isKey key = true)
    (hc : (c.isAlphanum || c == '_') = false) : c ∉ key := by
  intro mem
  have all := (Bool.and_eq_true_iff.mp h).2
  rw [List.all_eq_true.mp all c mem] at hc
  cases hc

/-- A key with an ending is a name. -/
theorem isName_append {ending : Text} {c : Char} (h : isKey key = true) (mem : c ∈ ending)
    (letter : c ≠ '.') (slash : '/' ∉ ending) (nul : '\x00' ∉ ending) :
    IsName (key ++ ending) where
  nonempty := List.append_ne_nil_of_right_ne_nil _ (List.ne_nil_of_mem mem)
  not_here same := by
    have mem := List.mem_append_right key mem
    rw [same] at mem
    exact letter (List.mem_singleton.mp mem)
  not_above same := by
    have mem := List.mem_append_right key mem
    rw [same] at mem
    simp [letter] at mem
  no_slash := fun mem => (List.mem_append.mp mem).elim (not_mem_of_isKey h (by decide)) slash
  no_nul := fun mem => (List.mem_append.mp mem).elim (not_mem_of_isKey h (by decide)) nul

theorem isName_entryName (h : isKey key = true) : IsName (entryName key) :=
  isName_append (c := 'h') h (by decide) (by decide) (by decide) (by decide)

theorem isName_temporaryName (h : isKey key = true) (stamp : Nat) :
    IsName (temporaryName key (Text.ofNumeral stamp)) := by
  have absent : ∀ c : Char, c.isDigit = false → c ≠ '.' → c ∉ ".tmp".toList →
      c ∉ '.' :: (Text.ofNumeral stamp ++ ".tmp".toList) := by
    intro c digit dot ending
    simpa only [List.mem_cons, List.mem_append, dot, false_or, not_or] using
      ⟨Text.not_mem_ofNumeral digit stamp, ending⟩
  rw [temporaryName, List.append_assoc]
  exact isName_append (c := 't') h
    (List.mem_cons_of_mem _ (List.mem_append_right _ (by decide))) (by decide)
    (absent '/' (by decide) (by decide) (by decide))
    (absent '\x00' (by decide) (by decide) (by decide))

/-- An entry's name is no longer than those its file is written under. -/
theorem byteSize_entryName_le (key stamp : Text) :
    (entryName key).byteSize ≤ (temporaryName key stamp).byteSize := by
  have html : Text.byteSize ".html".toList = 5 := by decide
  have tmp : Text.byteSize ".tmp".toList = 4 := by decide
  have dot : Char.utf8Size '.' = 1 := by decide
  simp only [entryName, temporaryName, Text.byteSize_append, Text.byteSize, html, tmp, dot]
  omega

theorem entryName_injective (h : entryName key = entryName other) : key = other :=
  List.append_cancel_right h

/-- No file is written under the name of an entry. -/
theorem temporaryName_ne_entryName (key stamp other : Text) :
    temporaryName key stamp ≠ entryName other := by
  intro same
  have tmp : ".tmp".toList.getLast? = some 'p' := by decide
  have html : ".html".toList.getLast? = some 'l' := by decide
  have last := congrArg List.getLast? same
  simp only [temporaryName, entryName, List.getLast?_append, tmp, html] at last
  cases last

@[simp] theorem renderCache_get {m : Type → Type} [Monad m] (cache : FileCache m) :
    cache.renderCache.get = cache.get := by
  unfold renderCache
  rfl

@[simp] theorem renderCache_set {m : Type → Type} [Monad m] (cache : FileCache m) :
    cache.renderCache.set = cache.set := by
  unfold renderCache
  rfl

/-! ## Looking up -/

/-- The path of an entry. -/
theorem entryPath_eq (h : isKey key = true) :
    (Machine.fileCache folder).entryPath key = .ok (Path.child folder (entryName key)) :=
  if_pos h

/-- What the file of an entry says is read from it. -/
theorem decode_of_isEntry (h : IsEntry files path expiry markup) :
    ∃ content : Text, files.read path = .ok content.toUtf8 ∧
      decode path content = .ok (expiry, markup) := by
  obtain ⟨header, read, first, numeral⟩ := h
  refine ⟨_, read, ?_⟩
  simp only [decode, Text.splitOnce?_append first, numeral]

theorem isEntry_of_decode {content : Text} (read : files.read path = .ok content.toUtf8)
    (h : decode path content = .ok (expiry, markup)) : IsEntry files path expiry markup := by
  unfold decode at h
  split at h
  · cases h
  · next header rest split =>
    obtain ⟨rfl, first⟩ := Text.eq_of_splitOnce? split
    split at h
    · cases h
    · next numeral =>
      cases h
      exact ⟨header, read, first, numeral⟩

/-- A file that is read as an entry is one. -/
theorem isEntry_of_read (small : expiry < Text.numeralBound)
    (read : files.read path = .ok (encode expiry markup).toUtf8) :
    IsEntry files path expiry markup := by
  refine ⟨Text.ofNumeral expiry, read, Text.not_mem_ofNumeral (by decide) expiry, ?_⟩
  rw [Text.trim_ofNumeral, Text.toNumeral?_ofNumeral small]

/-- A file is an entry in one way only. -/
theorem IsEntry.unique {expiry' : Nat} {markup' : Text} (h : IsEntry files path expiry markup)
    (h' : IsEntry files path expiry' markup') : expiry = expiry' ∧ markup = markup' := by
  obtain ⟨content, read, decoded⟩ := decode_of_isEntry h
  obtain ⟨content', read', decoded'⟩ := decode_of_isEntry h'
  rw [read] at read'
  have same := congrArg Text.ofUtf8? (Except.ok.inj read')
  rw [Text.ofUtf8?_toUtf8, Text.ofUtf8?_toUtf8] at same
  obtain rfl := Option.some.inj same
  rw [decoded] at decoded'
  exact Prod.mk.inj (Except.ok.inj decoded')

/-- Markup that is held is found. -/
theorem run_get_of_holds (hkey : isKey key = true)
    (h : Holds machine.files (Path.child folder (entryName key)) (secondOf machine.time) markup) :
    ((Machine.fileCache folder).get key).run machine = (.ok (some markup), machine) := by
  obtain ⟨expiry, entry, later⟩ := h
  obtain ⟨content, read, decoded⟩ := decode_of_isEntry entry
  unfold get
  simp only [entryPath_eq hkey]
  rw [run_bind, Machine.fileCache, Machine.run_readText, read]
  simp only [Except.bind, Text.ofUtf8?_toUtf8, Option.elim, decoded]
  rw [run_bind, Machine.run_clock]
  simp only [if_neg (Nat.not_le.mpr later)]
  rfl

/-- An entry past its time is removed. -/
theorem run_get_of_past (hkey : isKey key = true)
    (h : IsEntry machine.files (Path.child folder (entryName key)) expiry markup)
    (past : expiry ≤ secondOf machine.time)
    (located : machine.files.locate (Path.child folder (entryName key)) = .ok place) :
    ((Machine.fileCache folder).get key).run machine =
      (.ok none, { machine with files := machine.files.erase place }) := by
  obtain ⟨content, read, decoded⟩ := decode_of_isEntry h
  have removed : machine.files.remove (Path.child folder (entryName key)) =
      .ok (machine.files.erase place) :=
    Files.remove_of_read read located
  unfold get
  simp only [entryPath_eq hkey]
  rw [run_bind, Machine.fileCache, Machine.run_readText, read]
  simp only [Except.bind, Text.ofUtf8?_toUtf8, Option.elim, decoded]
  rw [run_bind, Machine.run_clock]
  simp only [if_pos past]
  rw [run_bind, Machine.run_remove_ok machine removed]
  rfl

/-- Nothing is found where nothing is. -/
theorem run_get_of_absent (hkey : isKey key = true)
    (h : machine.files.read (Path.child folder (entryName key)) = .error .noEntry) :
    ((Machine.fileCache folder).get key).run machine = (.ok none, machine) := by
  unfold get
  simp only [entryPath_eq hkey]
  rw [run_bind, Machine.fileCache, Machine.run_readText, h]
  rfl

/-- What is no entry is not found, and stays. -/
theorem run_get_of_not_isEntry (hkey : isKey key = true)
    (h : ∀ expiry markup,
      ¬ IsEntry machine.files (Path.child folder (entryName key)) expiry markup) :
    ∃ answer, (∀ markup, answer ≠ .ok (some markup)) ∧
      ((Machine.fileCache folder).get key).run machine = (answer, machine) := by
  unfold get
  simp only [entryPath_eq hkey]
  rw [run_bind, Machine.fileCache, Machine.run_readText]
  cases read : machine.files.read (Path.child folder (entryName key)) with
  | error failure =>
    cases failure
    case noEntry => exact ⟨.ok none, by simp, rfl⟩
    all_goals exact ⟨.error (.failure _), by simp, rfl⟩
  | ok bytes =>
    cases text : Text.ofUtf8? bytes with
    | none =>
      simp only [Except.bind, text, Option.elim]
      exact ⟨.error (.failure .notUtf8), by simp, rfl⟩
    | some content =>
      rw [Text.ofUtf8?_eq_some_iff] at text
      subst text
      simp only [Except.bind, Text.ofUtf8?_toUtf8, Option.elim]
      cases decoded : decode (Path.child folder (entryName key)) content with
      | error error => exact ⟨.error error, by simp, rfl⟩
      | ok entry => exact absurd (isEntry_of_decode read decoded) (h _ _)

/-! ## Replacing -/

section Replace

variable {temporary content : Text} {goal : Place} {left : Files}

/-- Whether a tree is what a failed write leaves: nothing has changed, or the file that stood where
it was written has gone. -/
def Cleared (files : Files) (temporary : Text) (left : Files) : Prop :=
  left = files ∨ ∃ place, files.locate temporary = .ok place ∧ files.Free place ∧
    left = files.erase place

/-- A cleared tree has no file that was not there. -/
theorem Cleared.addsOnly (h : Cleared files temporary left) :
    files.AddsOnly Files.nothing left := by
  rcases h with rfl | ⟨place, -, -, rfl⟩
  · exact .refl _ _
  · exact .erase _ place

section Steps

variable {failure : Failure} {opened moved final : Machine} {removed : Except Failure Unit}

/-- What could not be written is removed. -/
theorem run_replace_of_write
    (write : (Machine.disk.write temporary content.toUtf8).run machine = (.error failure, opened))
    (remove : (Machine.disk.remove temporary).run opened = (removed, final)) :
    (replace Machine.disk temporary path content).run machine = (.error failure, final) := by
  unfold replace
  rw [run_bind, write]
  dsimp only
  rw [run_bind, run_pure]
  dsimp only
  rw [run_bind, remove]
  rfl

/-- What was written and could not be renamed is removed. -/
theorem run_replace_of_rename
    (write : (Machine.disk.write temporary content.toUtf8).run machine = (.ok (), opened))
    (rename : (Machine.disk.rename temporary path).run opened = (.error failure, moved))
    (remove : (Machine.disk.remove temporary).run moved = (removed, final)) :
    (replace Machine.disk temporary path content).run machine = (.error failure, final) := by
  unfold replace
  rw [run_bind, write]
  dsimp only
  rw [run_bind, rename]
  dsimp only
  rw [run_bind, remove]
  rfl

/-- What was written and renamed stays. -/
theorem run_replace_of_ok
    (write : (Machine.disk.write temporary content.toUtf8).run machine = (.ok (), opened))
    (rename : (Machine.disk.rename temporary path).run opened = (.ok (), moved)) :
    (replace Machine.disk temporary path content).run machine = (.ok (), moved) := by
  unfold replace
  rw [run_bind, write]
  dsimp only
  rw [run_bind, rename]
  rfl

end Steps

/-- **What becomes of a file that is replaced**: it is not, and nothing is left of what was written,
however far that came; or the new one has been written under another name and is in its place. -/
theorem run_replace_cases (machine : Machine) (temporary path content : Text) :
    (∃ failure left, (replace Machine.disk temporary path content).run machine =
      (.error failure, { machine.begun with files := left }) ∧
      Cleared machine.files temporary left) ∨
    ∃ place goal, machine.files.locate temporary = .ok place ∧ machine.files.Free place ∧
      (machine.files.put place (.file content.toUtf8)).locate path = .ok goal ∧
      (replace Machine.disk temporary path content).run machine =
        (.ok (), { machine.begun with
          files := (machine.files.erase place).put goal (.file content.toUtf8) }) := by
  rcases machine.run_write_cases temporary content.toUtf8 with
    ⟨failure, fails, write⟩ | ⟨place, located, free, ⟨-, write⟩ | ⟨broken, write⟩⟩
  · have remove := Machine.run_remove_error machine.begun (Files.remove_of_write_error fails)
    exact .inl ⟨failure, machine.files, run_replace_of_write write remove, .inl rfl⟩
  · let opened := { machine.begun with files := machine.files.put place (.file content.toUtf8) }
    cases renames : opened.files.rename temporary path with
    | error failure =>
      have rename := Machine.run_rename_error opened renames
      have remove := Machine.run_remove_ok opened (Files.remove_put located free content.toUtf8)
      exact .inl ⟨failure, _, run_replace_of_rename write rename remove,
        .inr ⟨place, located, free, rfl⟩⟩
    | ok renamed =>
      have rename := Machine.run_rename_ok opened renames
      obtain ⟨written, goal, bytes, there, goes, standing, -, rfl⟩ := Files.rename_eq_ok renames
      -- What is renamed is what was written: the path still leads to its place.
      obtain rfl := Except.ok.inj (((Files.Keeps.put _ free.2).locate located).symm.trans there)
      rw [Files.at?_put_self free] at standing
      cases standing
      rw [Files.erase_put] at rename
      exact .inr ⟨place, goal, located, free, goes, run_replace_of_ok write rename⟩
  · let opened := { machine.begun with
      files := machine.files.put place (.file (content.toUtf8.extract 0 broken.behind)) }
    have remove := Machine.run_remove_ok opened
      (Files.remove_put located free (content.toUtf8.extract 0 broken.behind))
    exact .inl ⟨broken.cause, _, run_replace_of_write write remove,
      .inr ⟨place, located, free, rfl⟩⟩

/-- A file is replaced where no folder is in the way of either name and writing does not break
off. -/
theorem run_replace (machine : Machine) (whole : machine.nextBreak? = none)
    (located : machine.files.locate temporary = .ok place)
    (free : machine.files.at? place ≠ some .folder)
    (goes : machine.files.locate path = .ok goal) (vacant : machine.files.at? goal ≠ some .folder)
    (differ : goal ≠ place) (content : Text) :
    (replace Machine.disk temporary path content).run machine =
      (.ok (), { machine.begun with
        files := (machine.files.erase place).put goal (.file content.toUtf8) }) := by
  have keeps := Files.Keeps.put content.toUtf8 free
  have standing := Files.at?_put_self (Files.free_of_locate located free) (.file content.toUtf8)
  have renamed := Files.rename_of_ne_folder (keeps.locate located) (keeps.locate goes)
    standing ((machine.files.at?_put_of_ne _ differ).symm ▸ vacant)
  rw [Files.erase_put] at renamed
  let opened := { machine.begun with files := machine.files.put place (.file content.toUtf8) }
  exact run_replace_of_ok (Machine.run_write_ok whole located free content.toUtf8)
    (Machine.run_rename_ok opened renamed)

end Replace

/-! ## Storing -/

/-- The files after an entry has been written under one name and renamed to another. -/
def stored (files : Files) (temporary place : Place) (expiry : Nat) (markup : Text) : Files :=
  (files.erase temporary).put place (.file (encode expiry markup).toUtf8)

section Stored

variable {temporary : Place}

theorem at?_stored_self (h : files.at? temporary ≠ some .folder) (free : files.Free place) :
    (stored files temporary place expiry markup).at? place =
      some (.file (encode expiry markup).toUtf8) :=
  Files.at?_put_self (free.erase h) _

theorem at?_stored_of_ne {elsewhere : Place} (h : elsewhere ≠ temporary) (h' : elsewhere ≠ place) :
    (stored files temporary place expiry markup).at? elsewhere = files.at? elsewhere :=
  (Files.at?_put_of_ne _ _ h').trans (Files.at?_erase_of_ne files h)

/-- Folders stay where they are. -/
theorem keeps_stored (h : files.at? temporary ≠ some .folder) (h' : files.at? place ≠ some .folder) :
    files.Keeps (stored files temporary place expiry markup) :=
  (Files.Keeps.erase h).trans (Files.Keeps.put _ (Files.at?_erase_ne_folder h' temporary))

/-- **What was stored is an entry.** -/
theorem isEntry_stored (small : expiry < Text.numeralBound)
    (h : files.at? temporary ≠ some .folder) (located : files.locate path = .ok place)
    (h' : files.at? place ≠ some .folder) :
    IsEntry (stored files temporary place expiry markup) path expiry markup := by
  have standing : (stored files temporary place expiry markup).at? place = _ :=
    at?_stored_self h (Files.free_of_locate located h')
  exact isEntry_of_read small
    ((Files.read_eq_ok ((keeps_stored h h').locate located)).mpr standing)

end Stored

/-- The first second at which what is stored at a time is no longer valid. -/
def expiryOf (now : Nat) (lifetime : Duration) : Nat :=
  min (secondOf now + lifetime.seconds) lastSecond

theorem expiryOf_lt (now : Nat) (lifetime : Duration) : expiryOf now lifetime < Text.numeralBound :=
  Nat.lt_of_le_of_lt (Nat.min_le_right _ _) (by decide)

/-- Where the folder cannot be made, nothing is stored. -/
theorem run_set_of_error {made : Files} {failure : Failure} (hkey : isKey key = true)
    (folders : machine.files.makeFolders folder = (made, .error failure)) (markup : Text)
    (lifetime : Duration) : ((Machine.fileCache folder).set key markup lifetime).run machine =
      (.error (.failure failure), { machine with files := made }) := by
  unfold set
  simp only [entryPath_eq hkey]
  rw [run_bind, Machine.fileCache, Machine.run_makeFolders, folders]
  rfl

/-- Where the folder is made, the file of the key is replaced. -/
theorem run_set_of_ok {made : Files} (hkey : isKey key = true)
    (folders : machine.files.makeFolders folder = (made, .ok ())) (markup : Text)
    (lifetime : Duration) : ((Machine.fileCache folder).set key markup lifetime).run machine =
      let replaced := (replace Machine.disk
        (Path.child folder (temporaryName key (Text.ofNumeral machine.stamps)))
        (Path.child folder (entryName key))
        (encode (expiryOf machine.time lifetime) markup)).run
          { machine with files := made, stamps := machine.stamps + 1 }
      (replaced.1.mapError .failure, replaced.2) := by
  have expiry : min (secondOf machine.time + lifetime.seconds) lastSecond =
      expiryOf machine.time lifetime := rfl
  unfold set
  simp only [entryPath_eq hkey]
  rw [run_bind, Machine.fileCache, Machine.run_makeFolders, folders]
  dsimp only
  rw [run_bind, Machine.run_clock]
  dsimp only
  rw [run_bind, Machine.run_stamp, expiry]
  rfl

/-- **Storing under a key** makes the folder, and replaces the file of the key by an entry. -/
theorem run_set {made : Files} {temporary : Place} (hkey : isKey key = true)
    (whole : machine.nextBreak? = none)
    (folders : machine.files.makeFolders folder = (made, .ok ()))
    (there : made.locate (Path.child folder
      (temporaryName key (Text.ofNumeral machine.stamps))) = .ok temporary)
    (free : made.at? temporary ≠ some .folder)
    (located : made.locate (Path.child folder (entryName key)) = .ok place)
    (vacant : made.at? place ≠ some .folder) (differ : place ≠ temporary) (markup : Text)
    (lifetime : Duration) : ((Machine.fileCache folder).set key markup lifetime).run machine =
      (.ok (), { machine.begun with
        files := stored made temporary place (expiryOf machine.time lifetime) markup
        stamps := machine.stamps + 1 }) := by
  let opened : Machine := { machine with files := made, stamps := machine.stamps + 1 }
  rw [run_set_of_ok hkey folders,
    run_replace opened whole there free located vacant differ]
  rfl

end Highlight.FileCache
