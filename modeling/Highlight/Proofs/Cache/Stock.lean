import Highlight.Proofs.Cache.Repair
import Highlight.Proofs.Cache.Transparent

/-!
# Folders that hold nothing but renderings

Where nobody else puts entries in the folders of file caches, every entry there is the rendering of
a call with its key (`Stocked`). A call leaves it so, whatever becomes of it (`Stocked.highlight`),
and it gives its own rendering, for what it finds under its key was rendered from the same code, in
the same language and with the same class prefix (`run_highlight_of_stocked`).
-/

namespace Highlight.FileCache

open Files (nothing)
open Highlight.Path (IsName)

variable {machine : Machine} {files after : Files} {folder key content markup : Text}
  {registry : Registry} {own : Place → Prop} {calls more : List Call} {call : Call} {base : Place}

/-! ## What storing adds -/

/-- The file that storing under a key adds. -/
def Deposit (key content : Text) (place : Place) (bytes : ByteArray) : Prop :=
  bytes = content.toUtf8 ∧ ∃ base, place = base ++ [entryName key]

/-- A deposit at the place of an entry is the entry of its key. -/
theorem Deposit.eq_of_entryName {bytes : ByteArray} {other : Text}
    (h : Deposit key content (base ++ [entryName other]) bytes) :
    other = key ∧ bytes = content.toUtf8 := by
  obtain ⟨rfl, base', same⟩ := h
  have names := (List.append_inj' same rfl).2
  exact ⟨entryName_injective (List.singleton_inj.mp names), rfl⟩

/-- A path of a name in a folder leads to a place with that name. -/
theorem exists_eq_append_of_locate {name : Text} {place : Place}
    (located : files.locate (Path.child folder name) = .ok place) (h : IsName name) :
    ∃ base, place = base ++ [name] :=
  let ⟨base, same, _⟩ := Files.locate_sibling located h h (Nat.le_refl _)
  ⟨base, same⟩

/-- Replacing an entry adds it, or nothing. -/
theorem addsOnly_replace (machine : Machine) (folder temporary : Text) (hkey : isKey key = true)
    (content : Text) : machine.files.AddsOnly (Deposit key content)
      ((replace Machine.disk temporary (Path.child folder (entryName key)) content).run
        machine).2.files := by
  rcases run_replace_cases machine temporary (Path.child folder (entryName key)) content with
    ⟨failure, left, replaced, cleared⟩ | ⟨place, goal, -, -, goes, replaced⟩
  · rw [replaced]
    exact cleared.addsOnly.of_nothing _
  · obtain ⟨base, rfl⟩ := exists_eq_append_of_locate goes (isName_entryName hkey)
    rw [replaced]
    refine (Files.AddsOnly.move machine.files place _ content.toUtf8).mono ?_
    rintro other bytes ⟨rfl, rfl⟩
    exact ⟨rfl, base, rfl⟩

/-- **Storing adds the entry**, or nothing, however it ends. -/
theorem addsOnly_set (machine : Machine) (folder : Text) (hkey : isKey key = true) (markup : Text)
    (lifetime : Duration) : machine.files.AddsOnly
      (Deposit key (encode (expiryOf machine.time lifetime) markup))
      (((Machine.fileCache folder).set key markup lifetime).run machine).2.files := by
  cases folders : machine.files.makeFolders folder with
  | mk made answer =>
    have grown := (Files.grown_of_makeFolders folders).addsOnly
    cases answer with
    | error failure =>
      rw [run_set_of_error hkey folders]
      exact grown.of_nothing _
    | ok done =>
      rw [run_set_of_ok hkey folders]
      exact (grown.of_nothing _).trans (addsOnly_replace
        { machine with files := made, stamps := machine.stamps + 1 } folder _ hkey _)

/-! ## Entries and the calls they are from -/

/-- Whether every entry in certain places is the rendering of a call with its key. -/
def Stocked (registry : Registry) (own : Place → Prop) (calls : List Call) (files : Files) : Prop :=
  ∀ base key bytes, own base → isKey key = true →
    files.at? (base ++ [entryName key]) = some (.file bytes) →
      ∃ expiry < Text.numeralBound, ∃ call ∈ calls, call.code ≠ [] ∧ call.key = key ∧
        bytes = (encode expiry (call.render registry)).toUtf8

/-- Whether every entry in certain places was there before. -/
def Spared (own : Place → Prop) (files after : Files) : Prop :=
  ∀ base key bytes, own base → isKey key = true →
    after.at? (base ++ [entryName key]) = some (.file bytes) →
      files.at? (base ++ [entryName key]) = some (.file bytes)

theorem Stocked.mono (h : Stocked registry own calls files) (sub : calls ⊆ more) :
    Stocked registry own more files := by
  intro base key bytes mine hkey there
  obtain ⟨expiry, small, call, mem, from_call⟩ := h base key bytes mine hkey there
  exact ⟨expiry, small, call, sub mem, from_call⟩

theorem Stocked.spared (h : Stocked registry own calls files) (spared : Spared own files after) :
    Stocked registry own calls after :=
  fun base key bytes mine hkey there => h base key bytes mine hkey (spared _ _ _ mine hkey there)

/-- What is put in no entry's place spares the entries. -/
theorem spared_put {place : Place} (files : Files) (entry : Entry) (own : Place → Prop)
    (elsewhere : ∀ base key, place ≠ base ++ [entryName key]) :
    Spared own files (files.put place entry) := by
  intro base key bytes _ _ there
  rwa [Files.at?_put_of_ne _ _ (elsewhere base key).symm] at there

/-- What adds no file spares the entries. -/
theorem spared_of_addsOnly (h : files.AddsOnly nothing after) (own : Place → Prop) :
    Spared own files after :=
  fun _ _ _ _ _ there => (h _ _ there).elim id False.elim

/-- A deposit of a call's rendering under its key is from that call. -/
theorem Stocked.deposit {expiry : Nat} (h : Stocked registry own calls files)
    (nonempty : call.code ≠ []) (small : expiry < Text.numeralBound)
    (adds : files.AddsOnly (Deposit call.key (encode expiry (call.render registry))) after) :
    Stocked registry own (calls ++ [call]) after := by
  intro base key bytes mine hkey there
  rcases adds _ _ there with before | deposit
  · exact h.mono (List.subset_append_left _ _) base key bytes mine hkey before
  · obtain ⟨rfl, rfl⟩ := deposit.eq_of_entryName
    exact ⟨expiry, small, call, by simp, nonempty, rfl, rfl⟩

/-! ## Calls -/

/-- The key of a call can name a file. -/
theorem isKey_callKey (call : Call) : isKey call.key = true :=
  isKey_key call.code call.language engineVersion call.classPrefix

/-- **A call finds markup under its key** and leaves the machine as it is, or it gives its rendering
and stores it, unless there is no code. -/
theorem highlight_cases (registry : Registry) (folder : Text) (call : Call) (machine : Machine) :
    let given := (call.highlight registry (Machine.fileCache folder).renderCache).run machine
    (call.code = [] ∧ given = (call.render registry, machine)) ∨
    (call.code ≠ [] ∧ ∃ markup, given = (markup, machine) ∧
      Holds machine.files (Path.child folder (entryName call.key)) (secondOf machine.time) markup) ∨
    (call.code ≠ [] ∧ ∃ seen, machine.files.AddsOnly nothing seen.files ∧
      given = (call.render registry, (((Machine.fileCache folder).set call.key
        (call.render registry) call.lifetime).run seen).2)) := by
  intro given
  by_cases empty : call.code = []
  · refine .inl ⟨empty, ?_⟩
    simp only [given, Call.highlight, Highlighter.highlight, Call.render, Highlighter.render, empty,
      List.isEmpty_nil, if_true]
    rfl
  · let h := call.highlighter registry
    have same : given = (highlightIn h folder call.lifetime call.code call.language).run machine :=
      rfl
    by_cases held : ∃ markup, Holds machine.files
        (Path.child folder (entryName (h.key call.code call.language))) (secondOf machine.time) markup
    · obtain ⟨markup, holds⟩ := held
      have found := run_highlightIn_of_holds empty holds call.lifetime
      exact .inr (.inl ⟨empty, markup, same.trans found, holds⟩)
    · obtain ⟨seen, rendered, -, adds, -⟩ := run_highlightIn_of_miss empty
        (fun markup holds => held ⟨markup, holds⟩) call.lifetime
      exact .inr (.inr ⟨empty, seen, adds, same.trans rendered⟩)

/-- **A call leaves nothing but renderings.** -/
theorem Stocked.highlight (h : Stocked registry own calls machine.files) (call : Call)
    (folder : Text) : Stocked registry own (calls ++ [call])
      ((call.highlight registry (Machine.fileCache folder).renderCache).run machine).2.files := by
  have same := h.mono (List.subset_append_left calls [call])
  rcases highlight_cases registry folder call machine with
    ⟨-, rendered⟩ | ⟨-, markup, found, -⟩ | ⟨nonempty, seen, adds, rendered⟩
  · rwa [rendered]
  · rwa [found]
  · rw [rendered]
    dsimp only
    have left := h.spared (spared_of_addsOnly adds own)
    have stored := addsOnly_set seen folder (isKey_callKey call) (call.render registry)
      call.lifetime
    exact left.deposit nonempty (expiryOf_lt seen.time call.lifetime) stored

/-- Whether what is in a folder is in a place, once the folder is made. -/
def Leads (files : Files) (folder : Text) (base : Place) : Prop :=
  ∃ name, IsName name ∧
    (files.makeFolders folder).1.locate (Path.child folder name) = .ok (base ++ [name])

/-- Where there is a file in a folder, the folder leads to its place. -/
theorem leads_of_locate {name : Text} (h : IsName name)
    (located : files.locate (Path.child folder name) = .ok (base ++ [name])) :
    Leads files folder base := by
  refine ⟨name, h, ?_⟩
  rw [Files.makeFolders_of_locate located h]
  exact located

/-- Markup that is held under the key of a call is its rendering. -/
theorem Stocked.eq_render (h : Stocked registry own calls machine.files)
    (distinct : Call.Distinct (calls ++ [call]))
    (leads : ∀ base, Leads machine.files folder base → own base) (nonempty : call.code ≠ [])
    (holds : Holds machine.files (Path.child folder (entryName call.key))
      (secondOf machine.time) markup) :
    markup = call.render registry := by
  have hkey := isKey_callKey call
  obtain ⟨expiry, entry, _⟩ := holds
  obtain ⟨header, read, _⟩ := id entry
  obtain ⟨place, located, there⟩ := Files.locate_of_read read
  obtain ⟨base, rfl⟩ := exists_eq_append_of_locate located (isName_entryName hkey)
  have mine := leads base (leads_of_locate (isName_entryName hkey) located)
  obtain ⟨expiry', small, other, mem, nonempty', same, bytes⟩ :=
    h base call.key _ mine hkey there
  rw [bytes] at read
  rw [(entry.unique (isEntry_of_read small read)).2]
  exact distinct.render_eq (List.mem_append_left _ mem) (List.mem_append_right _
    (List.mem_singleton_self call)) nonempty' nonempty same

/-- **A call gives its own rendering** where there is nothing but renderings. -/
theorem run_highlight_of_stocked (h : Stocked registry own calls machine.files)
    (distinct : Call.Distinct (calls ++ [call]))
    (leads : ∀ base, Leads machine.files folder base → own base) :
    ((call.highlight registry (Machine.fileCache folder).renderCache).run machine).1 =
      call.render registry := by
  rcases highlight_cases registry folder call machine with
    ⟨-, rendered⟩ | ⟨nonempty, markup, found, holds⟩ | ⟨-, seen, -, rendered⟩
  · rw [rendered]
  · rw [found]
    exact h.eq_render distinct leads nonempty holds
  · rw [rendered]

end Highlight.FileCache
