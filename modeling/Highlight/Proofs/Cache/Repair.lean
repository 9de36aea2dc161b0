import Highlight.Proofs.Cache.File
import Highlight.Proofs.Cache.Key
import Highlight.Proofs.Highlighter
import Mathlib.Control.Monad.Basic

/-!
# Damaged file caches

Whatever is in the folder of a file cache, highlighting gives the markup that an entry holds, or
else the rendering. If the entry can be written, highlighting leaves behind an entry of what it gave,
which is found until the second that it names (`highlight_repairs_iff`).
-/

namespace Highlight.FileCache

variable {machine : Machine} {folder key markup : Text} {place : Place} {later : Nat}

/-! ## Entries that can be written -/

/-- Whether an entry can be written: its folder is there or can be made, a file can be written in
the folder and is written whole, and the entry itself is no folder. -/
structure IsWritable (machine : Machine) (folder key : Text) : Prop where
  made : (machine.files.makeFolders folder).2 = .ok ()
  written : ∃ files, (machine.files.makeFolders folder).1.write
    (Path.child folder (temporaryName key (Text.ofNumeral machine.stamps))) .empty = .ok files
  whole : machine.nextBreak? = none
  no_folder : (machine.files.makeFolders folder).1.read (Path.child folder (entryName key)) ≠
    .error .isFolder

/-- **An entry that can be written** is what is stored. -/
theorem run_set_of_isWritable (hkey : isKey key = true) (h : IsWritable machine folder key)
    (markup : Text) (lifetime : Duration) :
    ∃ after, ((Machine.fileCache folder).set key markup lifetime).run machine = (.ok (), after) ∧
      IsEntry after.files (Path.child folder (entryName key)) (expiryOf machine.time lifetime)
        markup := by
  obtain ⟨made, ⟨written, write⟩, whole, no_folder⟩ := h
  obtain ⟨temporary, there, free, -⟩ := Files.write_eq_ok write
  obtain ⟨base, rfl, located⟩ := Files.locate_sibling there (isName_temporaryName hkey _)
    (isName_entryName hkey) (byteSize_entryName_le key _)
  have vacant : (machine.files.makeFolders folder).1.at? (base ++ [entryName key]) ≠
      some .folder := fun standing => no_folder (Files.read_of_folder located standing)
  have differ : base ++ [entryName key] ≠
      base ++ [temporaryName key (Text.ofNumeral machine.stamps)] := fun same =>
    temporaryName_ne_entryName _ _ _ (List.singleton_inj.mp (List.append_cancel_left same)).symm
  exact ⟨_, run_set hkey whole (Prod.ext rfl made) there free.2 located vacant differ markup
    lifetime, isEntry_stored (expiryOf_lt _ _) free.2 located vacant⟩

/-- An entry can still be written after it was removed. -/
theorem IsWritable.erase (hkey : isKey key = true) (h : IsWritable machine folder key)
    (located : machine.files.locate (Path.child folder (entryName key)) = .ok place)
    (standing : machine.files.at? place ≠ some .folder) :
    IsWritable { machine with files := machine.files.erase place } folder key := by
  have keeps := Files.Keeps.erase standing
  have before := Files.makeFolders_of_locate located (isName_entryName hkey)
  have after := Files.makeFolders_of_locate (keeps.locate located) (isName_entryName hkey)
  obtain ⟨_, ⟨written, write⟩, whole, _⟩ := h
  rw [before] at write
  obtain ⟨temporary, there, free, -⟩ := Files.write_eq_ok write
  refine ⟨by rw [after], ?_, whole, ?_⟩
  · rw [after]
    exact ⟨_, Files.write_of_ne_folder (keeps.locate there)
      (Files.at?_erase_ne_folder free.2 place) _⟩
  · rw [after, Files.read_of_none (keeps.locate located) (Files.at?_erase_self _ standing)]
    simp

/-- Whether looking up a key at a time gives markup. -/
def Finds (machine : Machine) (folder key : Text) (time : Nat) (markup : Text) : Prop :=
  (((Machine.fileCache folder).get key).run { machine with time }).1 = .ok (some markup)

/-- **An entry is found until its second comes**, and not from then on. -/
theorem finds_iff {expiry : Nat} (hkey : isKey key = true)
    (h : IsEntry machine.files (Path.child folder (entryName key)) expiry markup) (time : Nat) :
    Finds machine folder key time markup ↔ secondOf time < expiry := by
  let seen : Machine := { machine with time }
  unfold Finds
  by_cases early : secondOf time < expiry
  · have found : ((Machine.fileCache folder).get key).run seen = (.ok (some markup), seen) :=
      run_get_of_holds hkey ⟨expiry, h, early⟩
    rw [found]
    exact iff_of_true rfl early
  · have ⟨_, read, _⟩ := h
    obtain ⟨place, located, _⟩ := Files.locate_of_read read
    have gone : ((Machine.fileCache folder).get key).run seen = (.ok none, _) :=
      run_get_of_past hkey h (Nat.not_lt.mp early) located
    rw [gone]
    exact iff_of_false (by simp) early

/-- Without markup that is held, none is found, no file is added, and an entry that could be written
still can. -/
theorem run_get_of_not_holds (hkey : isKey key = true)
    (h : ∀ markup, ¬ Holds machine.files (Path.child folder (entryName key))
      (secondOf machine.time) markup) :
    ∃ answer seen, ((Machine.fileCache folder).get key).run machine = (answer, seen) ∧
      (∀ markup, answer ≠ .ok (some markup)) ∧ seen.time = machine.time ∧
      machine.files.AddsOnly Files.nothing seen.files ∧
      (IsWritable machine folder key → IsWritable seen folder key) := by
  by_cases entry : ∃ expiry markup,
      IsEntry machine.files (Path.child folder (entryName key)) expiry markup
  · obtain ⟨expiry, markup, entry⟩ := entry
    have past : expiry ≤ secondOf machine.time :=
      Nat.not_lt.mp fun early => h markup ⟨expiry, entry, early⟩
    have ⟨header, read, _⟩ := entry
    obtain ⟨place, located, there⟩ := Files.locate_of_read read
    have standing : machine.files.at? place ≠ some .folder := by simp [there]
    exact ⟨_, _, run_get_of_past hkey entry past located, by simp, rfl, .erase _ place,
      fun writable => writable.erase hkey located standing⟩
  · obtain ⟨answer, other, run⟩ := run_get_of_not_isEntry hkey
      fun expiry markup found => entry ⟨expiry, markup, found⟩
    exact ⟨answer, machine, run, other, rfl, .refl _ _, id⟩

/-! ## Highlighting -/

/-- What highlighting does on a machine with a file cache. -/
def highlightIn (h : Highlighter) (folder : Text) (lifetime : Duration) (code language : Text) :
    StateM Machine Text :=
  h.highlight (some ⟨(Machine.fileCache folder).renderCache, lifetime⟩) code language

section Highlight

variable {h : Highlighter} {code language : Text}

theorem run_highlightIn_of_holds (nonempty : code ≠ []) (holds : Holds machine.files
      (Path.child folder (entryName (h.key code language))) (secondOf machine.time) markup)
    (lifetime : Duration) :
    (highlightIn h folder lifetime code language).run machine = (markup, machine) := by
  have hit := run_get_of_holds (isKey_key _ _ _ _) holds
  rw [← renderCache_get] at hit
  exact Highlighter.run_highlight_of_hit h ⟨(Machine.fileCache folder).renderCache, lifetime⟩
    nonempty hit

/-- Where nothing is held the rendering comes out and is stored, once the lookup is over. -/
theorem run_highlightIn_of_miss (nonempty : code ≠ [])
    (none : ∀ markup, ¬ Holds machine.files
      (Path.child folder (entryName (h.key code language))) (secondOf machine.time) markup)
    (lifetime : Duration) :
    ∃ seen, (highlightIn h folder lifetime code language).run machine =
        (h.render code language, (((Machine.fileCache folder).set (h.key code language)
          (h.render code language) lifetime).run seen).2) ∧
      seen.time = machine.time ∧ machine.files.AddsOnly Files.nothing seen.files ∧
      (IsWritable machine folder (h.key code language) →
        IsWritable seen folder (h.key code language)) := by
  have hkey : isKey (h.key code language) = true := isKey_key _ _ _ _
  obtain ⟨answer, seen, asked, miss, kept⟩ := run_get_of_not_holds hkey none
  rw [← renderCache_get] at asked
  refine ⟨seen, ?_, kept⟩
  rw [← renderCache_set]
  exact Highlighter.run_highlight_of_miss h
    ⟨(Machine.fileCache folder).renderCache, lifetime⟩ nonempty miss asked

/-- Where nothing is held the rendering comes out; it is stored if that is possible. -/
theorem run_highlightIn_of_not_holds (nonempty : code ≠ [])
    (none : ∀ markup, ¬ Holds machine.files
      (Path.child folder (entryName (h.key code language))) (secondOf machine.time) markup)
    (lifetime : Duration) :
    ∃ after, (highlightIn h folder lifetime code language).run machine =
        (h.render code language, after) ∧
      (IsWritable machine folder (h.key code language) →
        IsEntry after.files (Path.child folder (entryName (h.key code language)))
          (expiryOf machine.time lifetime) (h.render code language)) := by
  have hkey : isKey (h.key code language) = true := isKey_key _ _ _ _
  obtain ⟨seen, rendered, time, -, writable⟩ := run_highlightIn_of_miss nonempty none lifetime
  refine ⟨_, rendered, ?_⟩
  intro canWrite
  obtain ⟨after, stored, entry⟩ :=
    run_set_of_isWritable hkey (writable canWrite) (h.render code language) lifetime
  rw [stored]
  exact time ▸ entry

end Highlight

/-- **Highlighting passes over damage and repairs it.** What comes out is the markup that the entry
holds, and the rendering if it holds none. Markup that was held is found afterwards, up to the second
that its entry names. What was rendered is found, if the entry can be written, up to the second that
is the sum of the clock's and the lifetime's: what either has beyond whole seconds does not count, so
for less than a second nothing is repaired. -/
theorem highlight_repairs_iff (h : Highlighter) (folder : Text) (lifetime : Duration)
    (code language : Text) (machine : Machine) (nonempty : code ≠ []) :
    let key := h.key code language
    let path := Path.child folder (entryName key)
    let run := (highlightIn h folder lifetime code language).run machine
    (∀ expiry markup, IsEntry machine.files path expiry markup →
      secondOf machine.time < expiry →
        run.1 = markup ∧ ∀ later, Finds run.2 folder key later run.1 ↔ secondOf later < expiry) ∧
    ((∀ markup, ¬ Holds machine.files path (secondOf machine.time) markup) →
      run.1 = h.render code language ∧ (IsWritable machine folder key → ∀ later,
        Finds run.2 folder key later run.1 ↔
          secondOf later < min (secondOf machine.time + lifetime.seconds) lastSecond)) := by
  intro key path run
  have hkey : isKey key = true := isKey_key _ _ _ _
  constructor
  · intro expiry markup entry early
    have hit : run = (markup, machine) :=
      run_highlightIn_of_holds nonempty ⟨expiry, entry, early⟩ lifetime
    rw [hit]
    exact ⟨rfl, finds_iff hkey entry⟩
  · intro none
    obtain ⟨after, miss, stored⟩ := run_highlightIn_of_not_holds nonempty none lifetime
    have miss : run = (h.render code language, after) := miss
    rw [miss]
    exact ⟨rfl, fun writable => finds_iff hkey (stored writable)⟩

/-- The key of a letter. -/
def letterKey : Text := ({} : Highlighter).key "a" "text"

/-- A cache in which the entry of a letter is a file of one byte, which is no text. -/
def damaged : Machine where
  files := { entries := [(["c".toList, entryName letterKey], .file ⟨#[255]⟩),
    (["c".toList], .folder)] }

/-- The damaged entry is there, and can be written. -/
theorem isWritable_damaged :
    damaged.files.read (Path.child "c" (entryName letterKey)) = .ok ⟨#[255]⟩ ∧
      IsWritable damaged "c" letterKey := by
  have hkey : isKey letterKey = true := isKey_key _ _ _ _
  have made : damaged.files.makeFolders "c" = (damaged.files, .ok ()) := rfl
  obtain ⟨_, base, located, names⟩ := Files.makeFolders_ok made
  obtain rfl : base = ["c".toList] := Except.ok.inj ((located (by decide)).symm.trans rfl)
  have there := (names _ ⟨isName_entryName hkey, by decide +kernel, by decide +kernel⟩).1
  have temporary :=
    (names _ ⟨isName_temporaryName hkey 0, by decide +kernel, by decide +kernel⟩).1
  have standing : damaged.files.at? (["c".toList] ++ [entryName letterKey]) =
      some (.file ⟨#[255]⟩) := Files.standing_cons_self _ _ (by simp)
  have free : damaged.files.at? (["c".toList] ++ [temporaryName letterKey (Text.ofNumeral 0)]) ≠
      some .folder := by decide +kernel
  have read := (Files.read_eq_ok there).mpr standing
  refine ⟨read, rfl, ⟨_, Files.write_of_ne_folder temporary free _⟩, rfl, ?_⟩
  rw [made, read]
  simp

/-- A file of one byte that is no text is passed over and replaced, for a minute. -/
theorem highlight_repairs_iff_byte :
    let run := (highlightIn {} "c" 60 "a" "text").run damaged
    ("a" : Text) ≠ [] ∧ IsWritable damaged "c" letterKey ∧
      (∀ markup, ¬ Holds damaged.files (Path.child "c" (entryName letterKey))
        (secondOf damaged.time) markup) ∧
      run.1 = ({} : Highlighter).render "a" "text" ∧
      ∀ later, Finds run.2 "c" letterKey later run.1 ↔ secondOf later < 60 := by
  intro run
  obtain ⟨read, writable⟩ := isWritable_damaged
  have none : ∀ markup, ¬ Holds damaged.files (Path.child "c" (entryName letterKey))
      (secondOf damaged.time) markup := by
    rintro markup ⟨expiry, ⟨header, whole, _⟩, _⟩
    rw [read] at whole
    have noText : Text.ofUtf8? ⟨#[255]⟩ = none := by decide
    rw [Except.ok.inj whole, Text.ofUtf8?_toUtf8] at noText
    cases noText
  obtain ⟨_, missed⟩ := highlight_repairs_iff {} "c" 60 "a" "text" damaged (by decide)
  obtain ⟨rendered, found⟩ := missed none
  have minute : min (secondOf damaged.time + Duration.seconds 60) lastSecond = 60 := by decide
  refine ⟨by decide, writable, none, rendered, ?_⟩
  intro later
  rw [← minute]
  exact found writable later

/-- What is rendered for half a second is not found, not even at the time at which it is stored. -/
theorem half_second_not_repaired :
    let run := (highlightIn {} "c" ⟨0, ⟨500000000, by decide⟩⟩ "a" "text").run damaged
    IsWritable damaged "c" letterKey ∧ run.1 = ({} : Highlighter).render "a" "text" ∧
      run.2.time = damaged.time ∧
      (((Machine.fileCache "c").get letterKey).run run.2).1 = .ok none := by
  intro run
  have rendered : run.1 = ({} : Highlighter).render "a" "text" := by decide +kernel
  have now : run.2.time = damaged.time := by decide +kernel
  have lost : (((Machine.fileCache "c").get letterKey).run run.2).1 = .ok none := by
    decide +kernel
  exact ⟨isWritable_damaged.2, rendered, now, lost⟩

end Highlight.FileCache
