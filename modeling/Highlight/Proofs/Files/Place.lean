import Highlight.Files.Basic
import Highlight.Proofs.Text.Split

/-!
# Where paths lead

A path into a folder leads to a place in the place of the folder, and the paths of other names in
that folder lead next to it (`locate_sibling`). A path that leads somewhere goes on doing so in
every tree that has the same folders (`Keeps.locate`). Making a folder adds folders where nothing
stood and changes nothing else; afterwards paths into the folder lead to it, and before they either
did so already or met a place where nothing stood (`makeFolders_ok`).
-/

namespace Highlight

namespace Path

/-- Whether a text names an entry of a folder: it is one step of a path, and a step into the
folder. -/
structure IsName (name : Text) : Prop where
  nonempty : name ≠ []
  not_here : name ≠ ['.']
  not_above : name ≠ ['.', '.']
  no_slash : '/' ∉ name
  no_nul : '\x00' ∉ name

/-- The names on the way to what is in a folder. -/
def way (folder : Text) : List Text :=
  if folder.isEmpty then []
  else if folder.getLast? == some '/' then Text.splitOn '/' folder.dropLast
  else folder.splitOn '/'

variable {folder name : Text}

/-- A path inside a folder is the way to it and the name. -/
theorem splitOn_child (h : '/' ∉ name) :
    (child folder name).splitOn '/' = way folder ++ [name] := by
  unfold child way
  by_cases empty : folder = []
  · subst empty
    exact Text.splitOn_of_not_mem h
  · rw [List.isEmpty_eq_false_iff.mpr empty]
    by_cases slash : folder.getLast? = some '/'
    · obtain ⟨front, rfl⟩ := List.getLast?_eq_some_iff.mp slash
      simp only [slash, List.dropLast_concat, List.append_assoc, List.singleton_append,
        beq_self_eq_true, Bool.or_true, if_true, Bool.false_eq_true, if_false,
        Text.splitOn_append_cons, Text.splitOn_of_not_mem h]
    · simp only [beq_eq_false_iff_ne.mpr slash, Bool.or_self, Bool.false_eq_true, if_false,
        Text.splitOn_append_cons, Text.splitOn_of_not_mem h]

/-- The path of a folder is the way to what is in it, behind which it may end in a slash. -/
theorem splitOn_eq_way (h : folder ≠ []) :
    folder.splitOn '/' = way folder ∨ folder.splitOn '/' = way folder ++ [[]] := by
  unfold way
  rw [List.isEmpty_eq_false_iff.mpr h]
  by_cases slash : folder.getLast? = some '/'
  · obtain ⟨front, rfl⟩ := List.getLast?_eq_some_iff.mp slash
    refine .inr ?_
    simp only [slash, List.dropLast_concat, beq_self_eq_true, if_true, Bool.false_eq_true, if_false]
    exact Text.splitOn_append_cons '/' front []
  · refine .inl ?_
    simp only [beq_eq_false_iff_ne.mpr slash, Bool.false_eq_true, if_false]

/-- A path inside a folder starts where the folder does. -/
theorem isAbsolute_child (h : '/' ∉ name) : isAbsolute (child folder name) = isAbsolute folder := by
  unfold child isAbsolute
  cases folder with
  | nil =>
    cases name with
    | nil => rfl
    | cons c rest =>
      have differs : c ≠ '/' := fun same => h (same ▸ List.mem_cons_self)
      simpa using differs
  | cons c rest => split <;> rfl

theorem mem_child {c : Char} (h : c ≠ '/') : c ∈ child folder name ↔ c ∈ folder ∨ c ∈ name := by
  unfold child
  split
  · exact List.mem_append
  · simp [h]

theorem byteSize_child (folder name : Text) :
    (child folder name).byteSize = (child folder []).byteSize + name.byteSize := by
  unfold child
  split
  · simp only [Text.byteSize_append, Text.byteSize, Nat.add_zero]
  · simp only [Text.byteSize_append, Text.byteSize, Nat.add_zero, Nat.add_assoc]

end Path

open Highlight.Path (IsName)

namespace Files

variable {files made : Files} {here place : Place} {names rest : List Text}
  {folder name other : Text}

/-! ## Trees with the same folders -/

/-- Whether one tree has all folders of another, and paths start where they did. -/
structure Keeps (files made : Files) : Prop where
  working : made.working = files.working
  folders : ∀ place, files.at? place = some .folder → made.at? place = some .folder

theorem Keeps.refl (files : Files) : files.Keeps files := ⟨rfl, fun _ h => h⟩

theorem Keeps.trans {final : Files} (h : files.Keeps made) (h' : made.Keeps final) :
    files.Keeps final :=
  ⟨h'.working.trans h.working, fun place there => h'.folders place (h.folders place there)⟩

/-- A file may be put where there is no folder. -/
theorem Keeps.put (content : ByteArray) (h : files.at? place ≠ some .folder) :
    files.Keeps (files.put place (.file content)) := by
  refine ⟨files.working_put _ _, ?_⟩
  intro other there
  have differs : other ≠ place := fun same => h (same ▸ there)
  rw [files.at?_put_of_ne _ differs, there]

/-- What is no folder may be taken out. -/
theorem Keeps.erase (h : files.at? place ≠ some .folder) : files.Keeps (files.erase place) := by
  refine ⟨files.working_erase _, ?_⟩
  intro other there
  have differs : other ≠ place := fun same => h (same ▸ there)
  rw [files.at?_erase_of_ne differs, there]

/-- Whether a tree comes from another by making folders where nothing stood. -/
structure Grown (files made : Files) : Prop where
  working : made.working = files.working
  at? : ∀ place, made.at? place = files.at? place ∨
    files.at? place = none ∧ made.at? place = some .folder

theorem Grown.refl (files : Files) : files.Grown files := ⟨rfl, fun _ => .inl rfl⟩

/-- Whatever stands somewhere stays there. -/
theorem Grown.at?_eq_some {entry : Entry} (h : files.Grown made)
    (there : files.at? place = some entry) : made.at? place = some entry := by
  rcases h.at? place with same | ⟨absent, _⟩
  · rw [same, there]
  · rw [there] at absent
    cases absent

theorem Grown.keeps (h : files.Grown made) : files.Keeps made :=
  ⟨h.working, fun _ there => h.at?_eq_some there⟩

theorem Grown.trans {final : Files} (h : files.Grown made) (h' : made.Grown final) :
    files.Grown final := by
  refine ⟨h'.working.trans h.working, ?_⟩
  intro place
  rcases h'.at? place with same | ⟨absent, new⟩
  · rw [same]
    exact h.at? place
  · rcases h.at? place with same | ⟨_, there⟩
    · exact .inr ⟨same ▸ absent, new⟩
    · rw [there] at absent
      cases absent

theorem Grown.put (start : files.at? here = some .folder) {name : Text}
    (h : files.at? (here ++ [name]) = none) : files.Grown (files.put (here ++ [name]) .folder) := by
  refine ⟨files.working_put _ _, ?_⟩
  intro other
  by_cases same : other = here ++ [name]
  · subst same
    exact .inr ⟨h, at?_put_self (free_append start name (by simp [h])) .folder⟩
  · exact .inl (files.at?_put_of_ne .folder same)

/-! ## Steps -/

/-- One step of a path that goes on behind it. -/
def enter (files : Files) (here : Place) (name : Text) : Except Failure Place :=
  if name = [] || name = ['.'] then .ok here
  else if name = ['.', '.'] then .ok here.dropLast
  else if nameLimit < name.byteSize then .error .nameTooLong
  else match files.at? (here ++ [name]) with
    | some .folder => .ok (here ++ [name])
    | some (.file _) => .error .notFolder
    | none => .error .noEntry

theorem follow_cons (h : rest ≠ []) :
    files.follow here (name :: rest) = (files.enter here name).bind fun next =>
      files.follow next rest := by
  simp only [follow, enter, if_neg h]
  split
  · rfl
  · split
    · rfl
    · split
      · rfl
      · cases files.at? (here ++ [name]) with
        | none => rfl
        | some entry => cases entry <;> rfl

theorem follow_of_enter {next : Place} (h : files.enter here name = .ok next) (rest : List Text) :
    files.follow here (name :: rest) = files.follow next rest := by
  by_cases last : rest = []
  · subst last
    revert h
    simp only [follow, enter]
    split
    · intro h
      cases h
      rfl
    · split
      · intro h
        cases h
        rfl
      · split
        · intro h
          cases h
        · split
          · intro h
            cases h
            rfl
          · intro h
            cases h
          · intro h
            cases h
  · rw [follow_cons last, h]
    rfl

/-- A step leads from a folder to a folder. -/
theorem at?_of_enter {next : Place} (start : files.at? here = some .folder)
    (h : files.enter here name = .ok next) : files.at? next = some .folder := by
  unfold enter at h
  split at h
  · cases h
    exact start
  · split at h
    · cases h
      exact at?_dropLast (by simp [start])
    · split at h
      · cases h
      · split at h
        · next there =>
          cases h
          exact there
        · cases h
        · cases h

theorem follow_singleton (h : files.follow here [name] = .ok place) :
    place = here ∨ place = here.dropLast ∨ place = here ++ [name] := by
  simp only [follow, if_true] at h
  split at h
  · cases h
    exact .inl rfl
  · split at h
    · cases h
      exact .inr (.inl rfl)
    · split at h
      · cases h
      · cases h
        exact .inr (.inr rfl)

/-- Steps from a folder lead to a place in a folder. -/
theorem at?_of_follow (start : files.at? here = some .folder)
    (h : files.follow here names = .ok place) : files.at? place.dropLast = some .folder := by
  have above : ∀ {base}, files.at? base = some .folder → files.at? base.dropLast = some .folder :=
    fun {base} there => at?_dropLast (by simp [there])
  induction names generalizing here with
  | nil =>
    cases h
    exact above start
  | cons name rest ih =>
    by_cases last : rest = []
    · subst last
      rcases follow_singleton h with rfl | rfl | rfl
      · exact above start
      · exact above (above start)
      · rwa [List.dropLast_concat]
    · rw [follow_cons last] at h
      cases entered : files.enter here name with
      | error failure =>
        rw [entered] at h
        cases h
      | ok next =>
        rw [entered] at h
        exact ih (at?_of_enter start entered) h

/-- The start of a path, where there is one. -/
theorem start_eq_ok {found : Place × List Text} (h : files.start folder = .ok found) :
    folder ≠ [] ∧ '\x00' ∉ folder ∧
      found = (if Path.isAbsolute folder then [] else files.working, folder.splitOn '/') := by
  unfold start at h
  split at h
  · cases h
  · next bare =>
    split at h
    · cases h
    · next nonempty =>
      split at h
      · cases h
      · cases h
        refine ⟨fun empty => nonempty (List.isEmpty_iff.mpr empty), ?_, rfl⟩
        rwa [List.contains_iff_mem] at bare

/-- Where a path starts there is a folder. -/
theorem at?_of_start (h : files.start folder = .ok (here, names)) :
    files.at? here = some .folder := by
  obtain ⟨-, -, same⟩ := start_eq_ok h
  cases same
  split
  · exact at?_nil files
  · exact files.started

/-- **A path leads to a place in a folder**, whether anything stands there or not. -/
theorem at?_of_locate {path : Text} (h : files.locate path = .ok place) :
    files.at? place.dropLast = some .folder := by
  unfold locate at h
  cases started : files.start path with
  | error failure =>
    rw [started] at h
    cases h
  | ok found =>
    rw [started] at h
    exact at?_of_follow (at?_of_start started) h

/-- Where a path leads and no folder stands, a file may be put. -/
theorem free_of_locate {path : Text} (h : files.locate path = .ok place)
    (free : files.at? place ≠ some .folder) : files.Free place :=
  ⟨at?_of_locate h, free⟩

/-! ## Trees with the same folders -/

theorem Keeps.enter {next : Place} (keeps : files.Keeps made)
    (h : files.enter here name = .ok next) : made.enter here name = .ok next := by
  unfold Files.enter at h ⊢
  split at h
  · next dot => rw [if_pos dot, h]
  · next dot =>
    rw [if_neg dot]
    split at h
    · next above => rw [if_pos above, h]
    · next above =>
      rw [if_neg above]
      split at h
      · cases h
      · next small =>
        rw [if_neg small]
        split at h
        · next there => rw [keeps.folders _ there, h]
        · cases h
        · cases h

/-- A way that can be followed can be followed where there are the same folders. -/
theorem Keeps.follow (keeps : files.Keeps made) (h : files.follow here names = .ok place) :
    made.follow here names = .ok place := by
  induction names generalizing here with
  | nil => exact h
  | cons name rest ih =>
    by_cases last : rest = []
    · subst last
      -- Whether the last step leads anywhere is not looked at.
      simp only [Files.follow, if_true] at h ⊢
      exact h
    · rw [follow_cons last] at h ⊢
      cases entered : files.enter here name with
      | error failure =>
        rw [entered] at h
        cases h
      | ok next =>
        rw [entered] at h
        rw [keeps.enter entered]
        exact ih h

theorem Keeps.locate {path : Text} (keeps : files.Keeps made) (h : files.locate path = .ok place) :
    made.locate path = .ok place := by
  unfold Files.locate at h ⊢
  have same : made.start path = files.start path := by
    simp only [start, keeps.working]
  rw [same]
  cases started : files.start path with
  | error failure =>
    rw [started] at h
    cases h
  | ok found =>
    rw [started] at h
    exact keeps.follow h

/-! ## Names in a folder -/

theorem follow_name (h : IsName name) (small : name.byteSize ≤ nameLimit) :
    files.follow here [name] = .ok (here ++ [name]) := by
  have dot : (decide (name = []) || decide (name = ['.'])) = false := by
    simp [h.nonempty, h.not_here]
  simp only [follow, dot, Bool.false_eq_true, if_false, if_neg h.not_above,
    if_neg (Nat.not_lt.mpr small), if_true]

/-- A way that ends in a name ends beside every other name. -/
theorem follow_sibling (h : files.follow here (names ++ [name]) = .ok place) (hname : IsName name)
    (hother : IsName other) (le : other.byteSize ≤ name.byteSize) :
    ∃ base, place = base ++ [name] ∧
      files.follow here (names ++ [other]) = .ok (base ++ [other]) := by
  induction names generalizing here with
  | nil =>
    have small : name.byteSize ≤ nameLimit := by
      refine Nat.not_lt.mp fun long => ?_
      have dot : (decide (name = []) || decide (name = ['.'])) = false := by
        simp [hname.nonempty, hname.not_here]
      simp only [List.nil_append, follow, dot, Bool.false_eq_true, if_false, if_neg hname.not_above,
        if_pos long] at h
      cases h
    rw [List.nil_append, follow_name hname small] at h
    cases h
    exact ⟨here, rfl, follow_name hother (Nat.le_trans le small)⟩
  | cons step names ih =>
    have more : ∀ name : Text, names ++ [name] ≠ [] := fun name => by simp
    rw [List.cons_append, follow_cons (more name)] at h
    rw [List.cons_append, follow_cons (more other)]
    cases entered : files.enter here step with
    | error failure =>
      rw [entered] at h
      cases h
    | ok next =>
      rw [entered] at h
      exact ih h

theorem start_child (h : IsName name) :
    files.start (Path.child folder name) =
      if '\x00' ∈ folder then .error .nulInPath
      else if pathLimit ≤ (Path.child folder name).byteSize then .error .nameTooLong
      else .ok (if Path.isAbsolute folder then [] else files.working,
        Path.way folder ++ [name]) := by
  have nul : (Path.child folder name).contains '\x00' = decide ('\x00' ∈ folder) := by
    rw [Bool.eq_iff_iff, List.contains_iff_mem, Path.mem_child (by decide), decide_eq_true_eq]
    exact or_iff_left h.no_nul
  have nonempty : (Path.child folder name).isEmpty = false := by
    rw [List.isEmpty_eq_false_iff]
    intro empty
    have absent : (Path.child folder name).splitOn '/' = Path.way folder ++ [name] :=
      Path.splitOn_child h.no_slash
    rw [empty] at absent
    have single := congrArg List.getLast? absent
    rw [List.getLast?_concat] at single
    exact h.nonempty (Option.some.inj single).symm
  simp only [start, nul, nonempty, Path.isAbsolute_child h.no_slash, Path.splitOn_child h.no_slash,
    decide_eq_true_eq, Bool.false_eq_true, if_false]

/-- **Paths of names in one folder** lead to places side by side. -/
theorem locate_sibling (h : files.locate (Path.child folder name) = .ok place)
    (hname : IsName name) (hother : IsName other) (le : other.byteSize ≤ name.byteSize) :
    ∃ base, place = base ++ [name] ∧
      files.locate (Path.child folder other) = .ok (base ++ [other]) := by
  unfold locate at h ⊢
  rw [start_child hname] at h
  rw [start_child hother]
  have size : (Path.child folder other).byteSize ≤ (Path.child folder name).byteSize := by
    rw [Path.byteSize_child folder other, Path.byteSize_child folder name]
    exact Nat.add_le_add_left le _
  split at h
  · cases h
  · next bare =>
    rw [if_neg bare]
    split at h
    · cases h
    · next short =>
      rw [if_neg fun long => short (Nat.le_trans long size)]
      exact follow_sibling h hname hother le

/-! ## Making folders -/

theorem makeAlong_of_enter {next : Place} (h : files.enter here name = .ok next)
    (rest : List Text) : files.makeAlong here (name :: rest) = files.makeAlong next rest := by
  unfold enter at h
  simp only [makeAlong]
  split at h
  · next dot =>
    cases h
    rw [if_pos dot]
  · next dot =>
    rw [if_neg dot]
    split at h
    · next above =>
      cases h
      rw [if_pos above]
    · next above =>
      rw [if_neg above]
      split at h
      · cases h
      · next small =>
        rw [if_neg small]
        cases there : files.at? (here ++ [name]) with
        | none =>
          rw [there] at h
          cases h
        | some entry =>
          rw [there] at h
          cases entry with
          | folder =>
            cases h
            rfl
          | file _ => cases h

/-- A step that fails where something is made: a folder is put where nothing stood. -/
theorem makeAlong_of_enter_error {failure : Failure} (start : files.at? here = some .folder)
    (h : files.enter here name = .error failure)
    (ok : files.makeAlong here (name :: rest) = (made, .ok ())) :
    failure = .noEntry ∧ files.at? (here ++ [name]) = none ∧
      (files.put (here ++ [name]) .folder).enter here name = .ok (here ++ [name]) ∧
      (files.put (here ++ [name]) .folder).makeAlong (here ++ [name]) rest = (made, .ok ()) := by
  simp only [makeAlong] at ok
  unfold enter at h ⊢
  split at h
  · cases h
  · next dot =>
    rw [if_neg dot] at ok ⊢
    split at h
    · cases h
    · next above =>
      rw [if_neg above] at ok ⊢
      split at h
      · next long =>
        rw [if_pos long] at ok
        cases ok
      · next small =>
        rw [if_neg small] at ok ⊢
        split at h
        · cases h
        · next there =>
          rw [there] at ok
          cases ok
        · next absent =>
          cases h
          rw [absent] at ok
          dsimp only at ok
          split at ok
          · cases ok
          · rw [at?_put_self (free_append start name (by simp [absent])) .folder]
            exact ⟨rfl, absent, rfl, ok⟩

/-- **Making folders** adds folders where nothing stood and does nothing else, also when it fails
half way. -/
theorem grown_makeAlong (start : files.at? here = some .folder) (names : List Text) :
    files.Grown (files.makeAlong here names).1 := by
  induction names generalizing files here with
  | nil => exact .refl files
  | cons name rest ih =>
    simp only [makeAlong]
    split
    · exact ih start
    · split
      · exact ih (at?_dropLast (by simp [start]))
      · split
        · exact .refl files
        · split
          · next there => exact ih there
          · exact .refl files
          · next absent =>
            split
            · exact .refl files
            · have free := free_append start name (by simp [absent])
              exact (Grown.put start absent).trans (ih (at?_put_self free .folder))

theorem grown_makeFolders (files : Files) (folder : Text) :
    files.Grown (files.makeFolders folder).1 := by
  unfold makeFolders
  split
  · exact .refl files
  · split
    · exact .refl files
    · next here names started => exact grown_makeAlong (at?_of_start started) names

theorem grown_of_makeAlong {answer : Except Failure Unit} (start : files.at? here = some .folder)
    (h : files.makeAlong here names = (made, answer)) : files.Grown made := by
  have grown := grown_makeAlong start names
  rwa [h] at grown

theorem grown_of_makeFolders {answer : Except Failure Unit}
    (h : files.makeFolders folder = (made, answer)) : files.Grown made := by
  have grown := grown_makeFolders files folder
  rwa [h] at grown

/-- **A way along which folders could be made** can be followed, and could be before unless it led
to where nothing stood. -/
theorem makeAlong_ok (start : files.at? here = some .folder)
    (h : files.makeAlong here names = (made, .ok ())) :
    ∃ base, made.follow here names = .ok base ∧ ∀ rest, rest ≠ [] →
      made.follow here (names ++ rest) = made.follow base rest ∧
        (files.follow here (names ++ rest) = files.follow base rest ∨
          files.follow here (names ++ rest) = .error .noEntry) := by
  induction names generalizing files here with
  | nil =>
    cases h
    exact ⟨here, rfl, fun rest _ => ⟨rfl, .inl rfl⟩⟩
  | cons name names ih =>
    cases entered : files.enter here name with
    | ok next =>
      have there := (grown_of_makeAlong start h).keeps.enter entered
      rw [makeAlong_of_enter entered] at h
      obtain ⟨base, followed, onward⟩ := ih (at?_of_enter start entered) h
      refine ⟨base, ?_, ?_⟩
      · rw [follow_of_enter there, followed]
      · intro rest more
        rw [List.cons_append, follow_of_enter there, follow_of_enter entered]
        exact onward rest more
    | error failure =>
      obtain ⟨rfl, absent, there, h⟩ := makeAlong_of_enter_error start entered h
      have made_here := at?_put_self (free_append start name (by simp [absent])) .folder
      have there := (grown_of_makeAlong made_here h).keeps.enter there
      obtain ⟨base, followed, onward⟩ := ih made_here h
      refine ⟨base, ?_, ?_⟩
      · rw [follow_of_enter there, followed]
      · intro rest more
        refine ⟨?_, .inr ?_⟩
        · rw [List.cons_append, follow_of_enter there]
          exact (onward rest more).1
        · rw [List.cons_append, follow_cons (by simp [more]), entered]
          rfl

/-- Nothing is made along a way that can be followed. -/
theorem makeAlong_of_follow (h : rest ≠ [])
    (followed : files.follow here (names ++ rest) = .ok place) :
    files.makeAlong here names = (files, .ok ()) := by
  induction names generalizing here with
  | nil => rfl
  | cons name names ih =>
    rw [List.cons_append, follow_cons (by simp [h])] at followed
    cases entered : files.enter here name with
    | error failure =>
      rw [entered] at followed
      cases followed
    | ok next =>
      rw [entered] at followed
      rw [makeAlong_of_enter entered]
      exact ih followed

/-- An empty step leads nowhere. -/
theorem follow_skip (names : List Text) (h : rest ≠ []) :
    files.follow here (names ++ [] :: rest) = files.follow here (names ++ rest) := by
  induction names generalizing here with
  | nil => exact follow_of_enter rfl rest
  | cons name names ih =>
    rw [List.cons_append, List.cons_append, follow_cons (by simp), follow_cons (by simp [h])]
    exact congrArg _ (funext fun next => ih)

/-- The path of a folder leads to where the way to what is in it leads. -/
theorem follow_splitOn (h : folder ≠ []) (more : rest ≠ []) :
    files.follow here (Text.splitOn '/' folder ++ rest) =
      files.follow here (Path.way folder ++ rest) := by
  rcases Path.splitOn_eq_way h with same | slash
  · rw [same]
  · rw [slash, List.append_assoc]
    exact follow_skip _ more

/-- Whether a text can be the name of a file in a folder. -/
structure Fits (folder name : Text) : Prop where
  isName : IsName name
  small : name.byteSize ≤ nameLimit
  short : (Path.child folder name).byteSize < pathLimit

/-- A name that is no longer than one that fits does so too. -/
theorem Fits.of_le (h : Fits folder name) (hother : IsName other)
    (le : other.byteSize ≤ name.byteSize) : Fits folder other where
  isName := hother
  small := Nat.le_trans le h.small
  short := by
    have short := h.short
    rw [Path.byteSize_child folder name] at short
    rw [Path.byteSize_child folder other]
    exact Nat.lt_of_le_of_lt (Nat.add_le_add_left le _) short

/-- **A folder that could be made** is there: names in it have places in its place. Before, their
paths led there too, or met a place where nothing stood. -/
theorem makeFolders_ok (h : files.makeFolders folder = (made, .ok ())) :
    files.Grown made ∧ ∃ base, (folder ≠ [] → made.locate folder = .ok base) ∧
      ∀ name, Fits folder name → made.locate (Path.child folder name) = .ok (base ++ [name]) ∧
        (files.locate (Path.child folder name) = .ok (base ++ [name]) ∨
          files.locate (Path.child folder name) = .error .noEntry) := by
  have grown := grown_of_makeFolders h
  refine ⟨grown, ?_⟩
  unfold makeFolders at h
  split at h
  · next empty =>
    obtain rfl := List.isEmpty_iff.mp empty
    cases h
    refine ⟨files.working, fun nonempty => absurd rfl nonempty, ?_⟩
    intro name ⟨hname, small, short⟩
    have located : files.locate (Path.child [] name) = .ok (files.working ++ [name]) := by
      unfold locate
      rw [start_child hname, if_neg List.not_mem_nil, if_neg (Nat.not_le.mpr short)]
      exact follow_name hname small
    exact ⟨located, .inl located⟩
  · split at h
    · cases h
    · next here names started =>
      obtain ⟨nonempty, bare, found⟩ := start_eq_ok started
      obtain ⟨rfl, rfl⟩ := Prod.mk.inj found
      obtain ⟨base, followed, onward⟩ := makeAlong_ok (at?_of_start started) h
      refine ⟨base, fun _ => ?_, ?_⟩
      · have same : made.start folder = files.start folder := by
          simp only [start, grown.working]
        unfold locate
        rw [same, started]
        exact followed
      · intro name ⟨hname, small, short⟩
        obtain ⟨after, before⟩ := onward [name] (List.cons_ne_nil _ _)
        rw [follow_splitOn nonempty (List.cons_ne_nil _ _), follow_name hname small] at after before
        unfold locate
        rw [start_child hname, start_child hname, if_neg bare, if_neg bare,
          if_neg (Nat.not_le.mpr short), if_neg (Nat.not_le.mpr short), grown.working]
        exact ⟨after, before⟩

/-- Nothing is made where a path into the folder leads to a place already. -/
theorem makeFolders_of_locate (h : files.locate (Path.child folder name) = .ok place)
    (hname : IsName name) : files.makeFolders folder = (files, .ok ()) := by
  unfold locate at h
  rw [start_child hname] at h
  unfold makeFolders
  split
  · rfl
  · next nonempty =>
    rw [List.isEmpty_iff] at nonempty
    split at h
    · cases h
    · next bare =>
      split at h
      · cases h
      · next short =>
        have size : folder.byteSize ≤ (Path.child folder name).byteSize := by
          unfold Path.child
          split <;> simp
        have started : files.start folder =
            .ok (if Path.isAbsolute folder then [] else files.working, folder.splitOn '/') := by
          simp only [start, List.contains_iff_mem, if_neg bare, List.isEmpty_iff, if_neg nonempty,
            if_neg fun long => short (Nat.le_trans long size)]
        rw [started]
        have followed : files.follow _ (Text.splitOn '/' folder ++ [name]) = .ok place :=
          (follow_splitOn nonempty (List.cons_ne_nil _ _)).trans h
        exact makeAlong_of_follow (List.cons_ne_nil _ _) followed

end Files

end Highlight
