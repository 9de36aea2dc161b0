import Highlight.Proofs.Cache.File
import Highlight.Proofs.Files.Straight
import Mathlib.Control.Monad.Basic

/-!
# Storing that fails

What a lookup answers depends on what is read at the path of its key and on the time
(`run_get_congr`), and all that it changes is that it takes out the entry it has found past its time
(`run_get_snd`). Storing that fails has made folders at most, and has taken out what it wrote of a
file, however far it came (`run_set_error`). Taking out that file changes nothing of what is read at
the path of any entry, and neither do the folders where the path of the cache is straight, so every
lookup answers as before (`failed_set_changes_nothing`). Where the path steps up behind a folder that
is missing, or has a name there that is too long, the folders made on the way may lead a lookup
elsewhere (`failed_set_changes_lookup`).
-/

namespace Highlight.FileCache

open Files (nothing)
open Highlight.Path (IsName)

variable {machine other after : Machine} {files made left : Files}
  {folder key name markup temporary path content : Text} {place : Place} {lifetime : Duration}

/-! ## Looking up -/

/-- What a lookup answers, by what is read at the path of the entry. -/
def answer (path : Text) (now : Nat) : Except Failure Text → Except CacheError (Option Text)
  | .error .noEntry => .ok none
  | .error failure => .error (.failure failure)
  | .ok content =>
    match decode path content with
    | .error error => .error error
    | .ok (expiry, markup) => .ok (if expiry ≤ now then none else some markup)

theorem entryPath_of_not_isKey (hkey : isKey key = false) :
    (Machine.fileCache folder).entryPath key = .error (.invalidKey key) := by
  simp only [entryPath, hkey, Bool.false_eq_true, if_false]

theorem run_get_of_not_isKey (hkey : isKey key = false) :
    ((Machine.fileCache folder).get key).run machine = (.error (.invalidKey key), machine) := by
  unfold get
  simp only [entryPath_of_not_isKey hkey]
  rfl

theorem run_get_fst (hkey : isKey key = true) :
    (((Machine.fileCache folder).get key).run machine).1 =
      answer (Path.child folder (entryName key)) (secondOf machine.time)
        ((machine.files.read (Path.child folder (entryName key))).bind fun bytes =>
          (Text.ofUtf8? bytes).elim (.error .notUtf8) .ok) := by
  unfold get
  simp only [entryPath_eq hkey]
  rw [run_bind, Machine.fileCache, Machine.run_readText]
  dsimp only
  cases (machine.files.read (Path.child folder (entryName key))).bind fun bytes =>
      (Text.ofUtf8? bytes).elim (.error .notUtf8) .ok with
  | error failure => cases failure <;> rfl
  | ok content =>
    dsimp only [answer]
    cases decode (Path.child folder (entryName key)) content with
    | error error => rfl
    | ok entry =>
      obtain ⟨expiry, markup⟩ := entry
      dsimp only
      rw [run_bind, Machine.run_clock]
      dsimp only
      by_cases past : expiry ≤ secondOf machine.time
      · rw [if_pos past, if_pos past, run_bind]
        rfl
      · rw [if_neg past, if_neg past]
        rfl

/-- **What a lookup answers** depends on what is read at the path of the key and on the time. -/
theorem run_get_congr (time : machine.time = other.time) (read : isKey key = true →
      machine.files.read (Path.child folder (entryName key)) =
        other.files.read (Path.child folder (entryName key))) :
    (((Machine.fileCache folder).get key).run machine).1 =
      (((Machine.fileCache folder).get key).run other).1 := by
  cases hkey : isKey key with
  | false => rw [run_get_of_not_isKey hkey, run_get_of_not_isKey hkey]
  | true => rw [run_get_fst hkey, run_get_fst hkey, read hkey, time]

/-- **A lookup changes nothing**, except that an entry past its time is taken out. -/
theorem run_get_snd (machine : Machine) (folder key : Text) :
    (((Machine.fileCache folder).get key).run machine).2 = machine ∨
      ∃ expiry markup place, isKey key = true ∧
        IsEntry machine.files (Path.child folder (entryName key)) expiry markup ∧
        expiry ≤ secondOf machine.time ∧
        machine.files.locate (Path.child folder (entryName key)) = .ok place ∧
        ((Machine.fileCache folder).get key).run machine =
          (.ok none, { machine with files := machine.files.erase place }) := by
  cases hkey : isKey key with
  | false => exact .inl (by rw [run_get_of_not_isKey hkey])
  | true =>
    by_cases entry : ∃ expiry markup,
        IsEntry machine.files (Path.child folder (entryName key)) expiry markup
    · obtain ⟨expiry, markup, entry⟩ := entry
      by_cases past : expiry ≤ secondOf machine.time
      · have ⟨_, read, _⟩ := entry
        obtain ⟨place, located, _⟩ := Files.locate_of_read read
        exact .inr ⟨expiry, markup, place, rfl, entry, past, located,
          run_get_of_past hkey entry past located⟩
      · exact .inl (by rw [run_get_of_holds hkey ⟨expiry, entry, Nat.not_le.mp past⟩])
    · obtain ⟨answer, _, run⟩ := run_get_of_not_isEntry hkey
        fun expiry markup found => entry ⟨expiry, markup, found⟩
      exact .inl (by rw [run])

/-! ## Storing -/

/-- **What storing leaves when it fails**: the folder is made, wholly or half way or not at all, and
what was written of a file has gone. -/
theorem run_set_error {error : CacheError}
    (failed : ((Machine.fileCache folder).set key markup lifetime).run machine =
      (.error error, after)) :
    after.files = machine.files ∨
      (∃ made failure, machine.files.makeFolders folder = (made, .error failure) ∧
        after.files = made) ∨
      ∃ made, isKey key = true ∧ machine.files.makeFolders folder = (made, .ok ()) ∧
        Cleared made (Path.child folder (temporaryName key (Text.ofNumeral machine.stamps)))
          after.files := by
  cases hkey : isKey key with
  | false =>
    unfold set at failed
    simp only [entryPath_of_not_isKey hkey] at failed
    cases failed
    exact .inl rfl
  | true =>
    cases makes : machine.files.makeFolders folder with
    | mk made result =>
      cases result with
      | error failure =>
        rw [run_set_of_error hkey makes] at failed
        cases failed
        exact .inr (.inl ⟨made, failure, rfl, rfl⟩)
      | ok done =>
        rw [run_set_of_ok hkey makes] at failed
        let opened : Machine := { machine with files := made, stamps := machine.stamps + 1 }
        rcases run_replace_cases opened
            (Path.child folder (temporaryName key (Text.ofNumeral machine.stamps)))
            (Path.child folder (entryName key)) (encode (expiryOf machine.time lifetime) markup)
          with ⟨failure, left, replaced, cleared⟩ | ⟨place, goal, -, -, -, replaced⟩
        · dsimp only at failed
          rw [replaced] at failed
          cases failed
          exact .inr (.inr ⟨made, rfl, rfl, cleared⟩)
        · dsimp only at failed
          rw [replaced] at failed
          cases failed

/-! ## What is there afterwards -/

/-- Nothing is missing from a cleared tree but what stood where the file was written. -/
theorem Cleared.at?_of_ne {elsewhere : Place} (h : Cleared files temporary left)
    (differs : files.locate temporary ≠ .ok elsewhere) :
    left.at? elsewhere = files.at? elsewhere := by
  rcases h with rfl | ⟨place, located, -, rfl⟩
  · rfl
  · refine Files.at?_erase_of_ne _ ?_
    rintro rfl
    exact differs located

theorem Cleared.keeps (h : Cleared files temporary left) : files.Keeps left := by
  rcases h with rfl | ⟨place, -, free, rfl⟩
  · exact .refl _
  · exact .erase free.2

/-- **What is read in a cleared folder** is what was read before, if it has another name. -/
theorem Cleared.read {written : Text} (h : Cleared made (Path.child folder written) left)
    (folders : files.makeFolders folder = (made, .ok ())) (hname : IsName name)
    (small : name.byteSize ≤ Files.nameLimit) (hwritten : IsName written)
    (differ : name ≠ written) :
    left.read (Path.child folder name) = made.read (Path.child folder name) := by
  have same : left.start (Path.child folder name) = made.start (Path.child folder name) := by
    simp only [Files.start, h.keeps.working]
  cases started : made.start (Path.child folder name) with
  | error failure =>
    rw [Files.read_of_start_error (same.trans started), Files.read_of_start_error started]
  | ok found =>
    have short : (Path.child folder name).byteSize < Files.pathLimit := by
      refine Nat.not_le.mp fun long => ?_
      rw [Files.start_child hname, if_pos long] at started
      split at started <;> cases started
    obtain ⟨_, base, _, places⟩ := Files.makeFolders_ok folders
    have located := (places name ⟨hname, small, short⟩).1
    refine Files.read_congr (h.keeps.locate located) located (h.at?_of_ne fun there => ?_)
    obtain ⟨base', same, _⟩ := Files.locate_sibling there hwritten hwritten (Nat.le_refl _)
    exact differ (List.singleton_inj.mp (List.append_inj' same rfl).2)

/-- **A failed store changes nothing of what is read** at the path of any entry. -/
theorem read_after_set_error {error : CacheError} {named : Text}
    (failed : ((Machine.fileCache folder).set key markup lifetime).run machine =
      (.error error, after)) (straight : machine.files.Straight folder)
    (hnamed : isKey named = true) (small : (entryName named).byteSize ≤ Files.nameLimit) :
    after.files.read (Path.child folder (entryName named)) =
      machine.files.read (Path.child folder (entryName named)) := by
  have hname := isName_entryName hnamed
  obtain same | ⟨made, failure, makes, same⟩ | ⟨made, hkey, makes, cleared⟩ :=
    run_set_error failed
  · rw [same]
  · rw [same]
    exact Files.read_makeFolders straight hname small makes
  · have read := cleared.read makes hname small (isName_temporaryName hkey _)
      (temporaryName_ne_entryName _ _ _).symm
    exact read.trans (Files.read_makeFolders straight hname small makes)

/-- **A failed store leaves no file**, and takes out none but what had the name it writes under. -/
theorem files_after_set_error {error : CacheError}
    (failed : ((Machine.fileCache folder).set key markup lifetime).run machine =
      (.error error, after)) :
    machine.files.AddsOnly nothing after.files ∧
      ∀ place content, machine.files.at? place = some (.file content) →
        after.files.at? place = some (.file content) ∨ ∃ base,
          place = base ++ [temporaryName key (Text.ofNumeral machine.stamps)] := by
  obtain same | ⟨made, failure, makes, same⟩ | ⟨made, hkey, makes, cleared⟩ :=
    run_set_error failed
  · rw [same]
    exact ⟨.refl _ _, fun place content there => .inl there⟩
  · rw [same]
    have grown := Files.grown_of_makeFolders makes
    exact ⟨grown.addsOnly, fun place content there => .inl (grown.at?_eq_some there)⟩
  · have grown := Files.grown_of_makeFolders makes
    refine ⟨grown.addsOnly.trans cleared.addsOnly, ?_⟩
    intro place content there
    have there := grown.at?_eq_some there
    by_cases written : made.locate (Path.child folder
        (temporaryName key (Text.ofNumeral machine.stamps))) = .ok place
    · have hname := isName_temporaryName hkey machine.stamps
      obtain ⟨base, same, _⟩ := Files.locate_sibling written hname hname (Nat.le_refl _)
      exact .inr ⟨base, same⟩
    · exact .inl ((cleared.at?_of_ne written).trans there)

/-- **A failed store changes nothing**, also where a write has broken off: it leaves no file behind,
for every file was there before, and every file is still there, unless it had the name under which
this call writes. If the path of the folder is straight, no lookup can tell, at any time and under
any key whose entry has a name. A lookup changes nothing either, except that it takes out the entry
of its key where that is past its time. -/
theorem failed_set_changes_nothing (machine : Machine) (folder key markup : Text)
    (lifetime : Duration) :
    (∀ error after, ((Machine.fileCache folder).set key markup lifetime).run machine =
        (.error error, after) →
      (machine.files.Straight folder → ∀ other now,
        (entryName other).byteSize ≤ Files.nameLimit →
        (((Machine.fileCache folder).get other).run { after with time := now }).1 =
          (((Machine.fileCache folder).get other).run { machine with time := now }).1) ∧
      machine.files.AddsOnly nothing after.files ∧
      ∀ place content, machine.files.at? place = some (.file content) →
        after.files.at? place = some (.file content) ∨ ∃ base,
          place = base ++ [temporaryName key (Text.ofNumeral machine.stamps)]) ∧
    ((((Machine.fileCache folder).get key).run machine).2 = machine ∨
      ∃ expiry markup place, isKey key = true ∧
        IsEntry machine.files (Path.child folder (entryName key)) expiry markup ∧
        expiry ≤ secondOf machine.time ∧
        machine.files.locate (Path.child folder (entryName key)) = .ok place ∧
        ((Machine.fileCache folder).get key).run machine =
          (.ok none, { machine with files := machine.files.erase place })) := by
  refine ⟨?_, run_get_snd machine folder key⟩
  intro error after failed
  refine ⟨?_, files_after_set_error failed⟩
  intro straight other now small
  have same := fun hother => read_after_set_error failed straight hother small
  exact run_get_congr rfl same

/-- A cache in which a folder stands in the place of the entry `k`, and an entry `o` beside it. -/
def blocked : Machine where
  files := { entries := [(["c".toList, "k.html".toList], .folder),
    (["c".toList, "o.html".toList], .file (Text.toUtf8 "100\nv")), (["c".toList], .folder)] }

/-- A machine without files that is full after three bytes. -/
def full : Machine where
  breaks := [some ⟨3, .other "full"⟩]

/-- Where a folder stands in the place of an entry, storing it fails, and the entry beside it is
found as before. Where a store makes the folder and its write breaks off, the folder is empty. -/
theorem failed_set_changes_nothing_beside :
    let given := ((Machine.fileCache "c").set "k" "m" 60).run blocked
    let broken := ((Machine.fileCache "c/d").set "k" "m" 60).run full
    (blocked.files.Straight "c" ∧
      given.1 = .error (.failure .isFolder) ∧ (entryName "o").byteSize ≤ Files.nameLimit ∧
      (((Machine.fileCache "c").get "o").run { given.2 with time := 5 }).1 = .ok (some "v") ∧
      blocked.files.AddsOnly nothing given.2.files) ∧
    full.files.Straight "c/d" ∧ broken.1 = .error (.failure (.other "full")) ∧
      broken.2.files.entries = [(["c".toList, "d".toList], .folder), (["c".toList], .folder)] ∧
      (((Machine.fileCache "c/d").get "k").run { broken.2 with time := 5 }).1 = .ok none := by
  intro given broken
  have small : (entryName "o").byteSize ≤ Files.nameLimit := by decide
  refine ⟨?_, ?_⟩
  · have there : blocked.files.locate "c" = .ok ["c".toList] := rfl
    have straight := Files.straight_of_locate there
    have failed : given.1 = .error (.failure .isFolder) := rfl
    have holds : Holds blocked.files (Path.child "c" (entryName "o")) (secondOf 5) "v" :=
      ⟨100, ⟨"100", rfl, by decide, by decide⟩, by decide⟩
    have found : ((Machine.fileCache "c").get "o").run { blocked with time := 5 } =
        (.ok (some "v"), { blocked with time := 5 }) :=
      run_get_of_holds (by decide) holds
    obtain ⟨same, adds, -⟩ :=
      (failed_set_changes_nothing blocked "c" "k" "m" 60).1 _ given.2 (Prod.ext failed rfl)
    refine ⟨straight, failed, small, ?_, adds⟩
    rw [same straight "o" 5 small, found]
  · have straight : full.files.Straight "c/d" := Files.straight_of_onward (by decide)
    have failed : broken.1 = .error (.failure (.other "full")) := rfl
    obtain ⟨same, -, -⟩ :=
      (failed_set_changes_nothing full "c/d" "k" "m" 60).1 _ broken.2 (Prod.ext failed rfl)
    refine ⟨straight, failed, rfl, ?_⟩
    rw [same straight "k" 5 (by decide)]
    rfl

/-- Where the path of the cache has a name that is too long behind a folder that is missing, a store
that fails has made that folder, and lookups that found nothing fail from then on. -/
theorem failed_set_changes_lookup :
    let folder : Text := "x/".toList ++ List.replicate 256 'd'
    let given := ((Machine.fileCache folder).set "k" "m" 60).run {}
    given.1 = .error (.failure .nameTooLong) ∧ (entryName "k").byteSize ≤ Files.nameLimit ∧
      (((Machine.fileCache folder).get "k").run {}).1 = .ok none ∧
      (((Machine.fileCache folder).get "k").run given.2).1 = .error (.failure .nameTooLong) := by
  decide +kernel

end Highlight.FileCache
