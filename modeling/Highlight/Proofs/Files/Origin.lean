import Highlight.Proofs.Files.Content

/-!
# Where files come from

What an operation leaves behind is told by the files that are new: every other file was there
before (`AddsOnly`). Taking something out and making folders add no files, and putting a file adds
that one.
-/

namespace Highlight

namespace Files

variable {files after : Files} {new more : Place → ByteArray → Prop}

/-- Whether every file of a later tree was there before or is one of the new ones. -/
def AddsOnly (files : Files) (new : Place → ByteArray → Prop) (after : Files) : Prop :=
  ∀ place content, after.at? place = some (.file content) →
    files.at? place = some (.file content) ∨ new place content

/-- No new files. -/
def nothing : Place → ByteArray → Prop := fun _ _ => False

namespace AddsOnly

theorem refl (files : Files) (new : Place → ByteArray → Prop) : files.AddsOnly new files :=
  fun _ _ there => .inl there

theorem mono (h : files.AddsOnly new after)
    (sub : ∀ place content, new place content → more place content) :
    files.AddsOnly more after :=
  fun place content there => (h place content there).imp_right (sub place content)

theorem trans {final : Files} (h : files.AddsOnly new after) (h' : after.AddsOnly new final) :
    files.AddsOnly new final := by
  intro place content there
  rcases h' place content there with before | added
  · exact h place content before
  · exact .inr added

/-- What adds nothing adds no more than anything else. -/
theorem of_nothing (h : files.AddsOnly nothing after) (new : Place → ByteArray → Prop) :
    files.AddsOnly new after :=
  h.mono fun _ _ added => added.elim

theorem erase (files : Files) (place : Place) : files.AddsOnly nothing (files.erase place) := by
  intro other content there
  have differs : other ≠ place := by
    rintro rfl
    by_cases folder : files.at? other = some .folder
    · have same : files.erase other = files := dif_neg fun free => free.2 folder
      rw [same, folder] at there
      cases there
    · rw [files.at?_erase_self folder] at there
      cases there
  rw [files.at?_erase_of_ne differs] at there
  exact .inl there

theorem put (files : Files) (place : Place) (content : ByteArray) :
    files.AddsOnly (fun other bytes => other = place ∧ bytes = content)
      (files.put place (.file content)) := by
  intro other bytes there
  by_cases same : other = place
  · subst same
    by_cases free : files.Free other
    · rw [at?_put_self free] at there
      cases there
      exact .inr ⟨rfl, rfl⟩
    · rw [put_of_not_free free] at there
      exact .inl there
  · rw [files.at?_put_of_ne _ same] at there
    exact .inl there

theorem move (files : Files) (place goal : Place) (content : ByteArray) :
    files.AddsOnly (fun other bytes => other = goal ∧ bytes = content)
      ((files.erase place).put goal (.file content)) :=
  ((erase files place).of_nothing _).trans (put (files.erase place) goal content)

end AddsOnly

theorem Grown.addsOnly (h : files.Grown after) : files.AddsOnly nothing after := by
  intro place content there
  rcases h.at? place with same | ⟨_, folder⟩
  · exact .inl (same ▸ there)
  · rw [folder] at there
    cases there

end Files

end Highlight
