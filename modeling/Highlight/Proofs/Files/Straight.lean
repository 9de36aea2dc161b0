import Highlight.Proofs.Files.Content

/-!
# Making folders hides nothing

In a tree nothing stands below where nothing stands (`at?_append`), so a folder that is made is empty.
A path goes straight on if behind its first missing step there are only names: no step up, which
would lead back to what is there already, and no name that is too long to be made (`Straight`). The
path of a folder that is there is straight (`straight_of_locate`), and so is one that never steps up
and has no such name (`straight_of_onward`). To make a straight path, wholly or half way, changes
nothing of what is read in its folder (`read_makeFolders`): either nothing is made, or there was no
file and there is none.
-/

namespace Highlight.Files

open Highlight.Path (IsName)

variable {files made : Files} {here base place : Place} {name folder : Text}
  {names rest : List Text} {answer : Except Failure Unit}

/-! ## Empty folders -/

/-- Nothing stands below what is no folder. -/
theorem at?_append (h : files.at? base ≠ some .folder) (more : rest ≠ []) :
    files.at? (base ++ rest) = none := by
  induction rest generalizing base with
  | nil => exact absurd rfl more
  | cons name rest ih =>
    have absent : files.at? (base ++ [name]) = none := by
      refine Classical.byContradiction fun there => h ?_
      have folder := at?_dropLast there
      rwa [List.dropLast_concat] at folder
    by_cases last : rest = []
    · rw [last, absent]
    · have nothing : files.at? (base ++ [name]) ≠ some .folder := by simp [absent]
      have below := ih nothing last
      rwa [List.append_assoc, List.singleton_append] at below

/-- Whether nothing stands below a place. -/
def Vacant (files : Files) (base : Place) : Prop :=
  ∀ rest, rest ≠ [] → files.at? (base ++ rest) = none

/-- A folder is empty where nothing stood. -/
theorem vacant_put (absent : files.at? place = none) :
    (files.put place .folder).Vacant place := by
  intro rest more
  rw [at?_put_of_ne _ _ (by simpa using more)]
  exact at?_append (by simp [absent]) more

/-- A folder put into an empty one is empty. -/
theorem Vacant.put (vacant : files.Vacant here) (name : Text) :
    (files.put (here ++ [name]) .folder).Vacant (here ++ [name]) := by
  intro rest more
  rw [at?_put_of_ne _ _ (by simpa using more), List.append_assoc]
  exact vacant _ (by simp)

/-! ## Straight paths -/

/-- Whether a step is not up, and not too long to be made. -/
def IsOnward (step : Text) : Prop := step ≠ ['.', '.'] ∧ step.byteSize ≤ nameLimit

instance (step : Text) : Decidable (IsOnward step) :=
  inferInstanceAs (Decidable (step ≠ ['.', '.'] ∧ step.byteSize ≤ nameLimit))

/-- Whether a step stays where it is. -/
def Stays (step : Text) : Prop := step = [] ∨ step = ['.']

instance (step : Text) : Decidable (Stays step) :=
  inferInstanceAs (Decidable (step = [] ∨ step = ['.']))

theorem enter_of_stays (stays : Stays name) : files.enter here name = .ok here := by
  unfold Stays at stays
  simp only [enter, Bool.or_eq_true, decide_eq_true_eq, if_pos stays]

theorem enter_of_folder (moves : ¬ Stays name) (onward : IsOnward name)
    (there : files.at? (here ++ [name]) = some .folder) :
    files.enter here name = .ok (here ++ [name]) := by
  unfold Stays at moves
  simp only [enter, Bool.or_eq_true, decide_eq_true_eq, if_neg moves, if_neg onward.1,
    if_neg (Nat.not_lt.mpr onward.2), there]

theorem enter_of_absent (moves : ¬ Stays name) (onward : IsOnward name)
    (absent : files.at? (here ++ [name]) = none) :
    files.enter here name = .error .noEntry := by
  unfold Stays at moves
  simp only [enter, Bool.or_eq_true, decide_eq_true_eq, if_neg moves, if_neg onward.1,
    if_neg (Nat.not_lt.mpr onward.2), absent]

/-- What a step is that leads nowhere. -/
theorem of_enter_noEntry (h : files.enter here name = .error .noEntry) :
    ¬ Stays name ∧ IsOnward name ∧ files.at? (here ++ [name]) = none := by
  unfold enter at h
  simp only [Bool.or_eq_true, decide_eq_true_eq] at h
  split at h
  · cases h
  · next moves =>
    split at h
    · cases h
    · next down =>
      split at h
      · cases h
      · next short =>
        split at h
        · cases h
        · cases h
        · next absent => exact ⟨moves, ⟨down, Nat.not_lt.mp short⟩, absent⟩

/-- A step that leads nowhere is made, or nothing is. -/
theorem makeAlong_of_noEntry (h : files.enter here name = .error .noEntry) (rest : List Text) :
    files.makeAlong here (name :: rest) = (files, .error .noEntry) ∨
      files.makeAlong here (name :: rest) =
        (files.put (here ++ [name]) .folder).makeAlong (here ++ [name]) rest := by
  obtain ⟨moves, onward, absent⟩ := of_enter_noEntry h
  unfold Stays at moves
  simp only [makeAlong, Bool.or_eq_true, decide_eq_true_eq, if_neg moves, if_neg onward.1,
    if_neg (Nat.not_lt.mpr onward.2), absent]
  split
  · exact .inl rfl
  · exact .inr rfl

/-- Nothing is made at a step that meets a file or is too long. -/
theorem makeAlong_of_failure {failure : Failure} (h : files.enter here name = .error failure)
    (other : failure ≠ .noEntry) (rest : List Text) :
    (files.makeAlong here (name :: rest)).1 = files := by
  unfold enter at h
  simp only [makeAlong]
  split at h
  · cases h
  · next moves =>
    rw [if_neg moves]
    split at h
    · cases h
    · next down =>
      rw [if_neg down]
      split
      · rfl
      · next short =>
        rw [if_neg short] at h
        cases standing : files.at? (here ++ [name]) with
        | none =>
          rw [standing] at h
          cases h
          exact absurd rfl other
        | some entry =>
          cases entry with
          | folder =>
            rw [standing] at h
            cases h
          | file content => rfl

/-- Whether steps from a place go on where they lead nowhere. -/
def StraightFrom (files : Files) : Place → List Text → Prop
  | _, [] => True
  | here, step :: rest =>
    match files.enter here step with
    | .ok next => StraightFrom files next rest
    | .error .noEntry => ∀ later ∈ rest, IsOnward later
    | .error _ => True

/-- Whether the path of a folder goes straight on where it leads nowhere. -/
def Straight (files : Files) (folder : Text) : Prop :=
  match files.start folder with
  | .ok (here, steps) => files.StraightFrom here steps
  | .error _ => True

/-- Steps that are all onward are straight, wherever they start. -/
theorem straightFrom_of_onward (onward : ∀ step ∈ names, IsOnward step) :
    files.StraightFrom here names := by
  induction names generalizing here with
  | nil => trivial
  | cons step rest ih =>
    obtain ⟨-, onward⟩ := List.forall_mem_cons.mp onward
    unfold StraightFrom
    split
    · exact ih onward
    · exact onward
    · trivial

/-- Steps that lead somewhere are straight, except that the last may lead to nothing. -/
theorem straightFrom_of_follow (h : files.follow here names = .ok place) :
    files.StraightFrom here names := by
  induction names generalizing here with
  | nil => trivial
  | cons step rest ih =>
    unfold StraightFrom
    split
    · next next entered => exact ih ((follow_of_enter entered rest).symm.trans h)
    · next entered =>
      by_cases more : rest = []
      · simp [more]
      · rw [follow_cons more, entered] at h
        cases h
    · trivial

/-- **A path without a step up is straight**, if none of its names is too long. -/
theorem straight_of_onward (onward : ∀ step ∈ folder.splitOn '/', IsOnward step) :
    files.Straight folder := by
  unfold Straight
  split
  · next started =>
    obtain ⟨-, -, same⟩ := start_eq_ok started
    cases same
    exact straightFrom_of_onward onward
  · trivial

/-- **The path of a folder that is there is straight**, and of one whose place alone is there. -/
theorem straight_of_locate (h : files.locate folder = .ok place) : files.Straight folder := by
  unfold Straight
  unfold locate at h
  split
  · next started =>
    rw [started] at h
    exact straightFrom_of_follow h
  · trivial

/-- Whether steps lead nowhere, or to where nothing stands. -/
def LeadsToNothing (files : Files) (here : Place) (steps : List Text) : Prop :=
  files.follow here steps = .error .noEntry ∨
    ∃ place, files.follow here steps = .ok place ∧ files.at? place = none

/-- A step that leads nowhere leads to nothing, whatever follows. -/
theorem leadsToNothing_of_enter_error (h : files.enter here name = .error .noEntry)
    (more : rest ≠ []) : files.LeadsToNothing here (name :: rest) := by
  refine .inl ?_
  rw [follow_cons more, h]
  rfl

theorem LeadsToNothing.enter {next : Place} (h : files.LeadsToNothing next rest)
    (entered : files.enter here name = .ok next) : files.LeadsToNothing here (name :: rest) := by
  unfold LeadsToNothing
  rwa [follow_of_enter entered]

/-- **Folders made in an empty one** are empty. -/
theorem leadsToNothing_of_vacant (start : files.at? here = some .folder)
    (vacant : files.Vacant here) (onward : ∀ step ∈ names, IsOnward step) (hname : IsName name)
    (small : name.byteSize ≤ nameLimit) (h : files.makeAlong here names = (made, answer)) :
    made.LeadsToNothing here (names ++ [name]) := by
  induction names generalizing files here with
  | nil =>
    cases h
    exact .inr ⟨_, follow_name hname small, vacant _ (List.cons_ne_nil _ _)⟩
  | cons step rest ih =>
    obtain ⟨first, onward⟩ := List.forall_mem_cons.mp onward
    rw [List.cons_append]
    by_cases stays : Stays step
    · rw [makeAlong_of_enter (enter_of_stays stays)] at h
      exact (ih start vacant onward h).enter (enter_of_stays stays)
    · have absent : files.at? (here ++ [step]) = none := vacant _ (List.cons_ne_nil _ _)
      have missing := enter_of_absent stays first absent
      rcases makeAlong_of_noEntry missing rest with nothing | makes
      · rw [nothing] at h
        cases h
        exact leadsToNothing_of_enter_error missing (by simp)
      · rw [makes] at h
        have put := at?_put_self (free_append start step (by simp [absent])) .folder
        have there : made.at? (here ++ [step]) = some .folder :=
          (grown_of_makeAlong put h).keeps.folders _ put
        exact (ih put (vacant.put step) onward h).enter (enter_of_folder stays first there)

/-- A straight way is not made at all, or leads to nothing before and after. -/
theorem makeAlong_straight (start : files.at? here = some .folder)
    (straight : files.StraightFrom here names) (hname : IsName name)
    (small : name.byteSize ≤ nameLimit) (h : files.makeAlong here names = (made, answer)) :
    made = files ∨ files.LeadsToNothing here (names ++ [name]) ∧
      made.LeadsToNothing here (names ++ [name]) := by
  induction names generalizing here with
  | nil =>
    cases h
    exact .inl rfl
  | cons step rest ih =>
    have keeps := (grown_of_makeAlong start h).keeps
    rw [List.cons_append]
    cases entered : files.enter here step with
    | ok next =>
      simp only [StraightFrom, entered] at straight
      rw [makeAlong_of_enter entered] at h
      rcases ih (at?_of_enter start entered) straight h with same | ⟨before, after⟩
      · exact .inl same
      · exact .inr ⟨before.enter entered, after.enter (keeps.enter entered)⟩
    | error failure =>
      by_cases missing : failure = .noEntry
      · subst missing
        simp only [StraightFrom, entered] at straight
        rcases makeAlong_of_noEntry entered rest with nothing | makes
        · rw [nothing] at h
          cases h
          exact .inl rfl
        · obtain ⟨moves, onward, absent⟩ := of_enter_noEntry entered
          rw [makes] at h
          have put := at?_put_self (free_append start step (by simp [absent])) .folder
          have there : made.at? (here ++ [step]) = some .folder :=
            (grown_of_makeAlong put h).keeps.folders _ put
          have after := leadsToNothing_of_vacant put (vacant_put absent) straight hname small h
          exact .inr ⟨leadsToNothing_of_enter_error entered (by simp),
            after.enter (enter_of_folder moves onward there)⟩
      · have nothing := makeAlong_of_failure entered missing rest
        rw [h] at nothing
        exact .inl nothing

/-! ## Reading -/

theorem read_of_start_error {path : Text} {failure : Failure}
    (h : files.start path = .error failure) : files.read path = .error failure := by
  refine read_of_locate_error ?_
  unfold locate
  rw [h]
  rfl

/-- Where nothing is, nothing is read. -/
theorem LeadsToNothing.read (hname : IsName name) (nonempty : folder ≠ []) (bare : '\x00' ∉ folder)
    (h : files.LeadsToNothing (if Path.isAbsolute folder then [] else files.working)
      (Text.splitOn '/' folder ++ [name])) :
    files.read (Path.child folder name) = .error
      (if pathLimit ≤ (Path.child folder name).byteSize then .nameTooLong else .noEntry) := by
  have started : files.start (Path.child folder name) = _ := start_child hname
  rw [if_neg bare] at started
  split
  · next long =>
    rw [if_pos long] at started
    exact read_of_start_error started
  · next short =>
    rw [if_neg short] at started
    have located : files.locate (Path.child folder name) =
        files.follow (if Path.isAbsolute folder then [] else files.working)
          (Path.way folder ++ [name]) := by
      unfold locate
      rw [started]
      rfl
    rw [LeadsToNothing, follow_splitOn nonempty (List.cons_ne_nil _ _), ← located] at h
    rcases h with nowhere | ⟨place, found, absent⟩
    · exact read_of_locate_error nowhere
    · exact read_of_none found absent

/-- **Making the folder of a straight path** changes nothing of what is read in the folder, whether
it succeeds or not. -/
theorem read_makeFolders (straight : files.Straight folder) (hname : IsName name)
    (small : name.byteSize ≤ nameLimit) (h : files.makeFolders folder = (made, answer)) :
    made.read (Path.child folder name) = files.read (Path.child folder name) := by
  have working := (grown_of_makeFolders h).working
  unfold makeFolders at h
  split at h
  · cases h
    rfl
  · cases started : files.start folder with
    | error failure =>
      rw [started] at h
      cases h
      rfl
    | ok found =>
      obtain ⟨nonempty, bare, rfl⟩ := start_eq_ok started
      rw [started] at h
      simp only [Straight, started] at straight
      rcases makeAlong_straight (at?_of_start started) straight hname small h with
        same | ⟨before, after⟩
      · rw [same]
      · rw [← working] at after
        rw [before.read hname nonempty bare, after.read hname nonempty bare]

/-- A path that leaves the tree and steps up again does lead elsewhere once its folders are made. -/
example :
    let files : Files :=
      { entries := [(["d".toList, "k".toList], .file .empty), (["d".toList], .folder)] }
    files.read "n/../d/k" = .error .noEntry ∧
      (files.makeFolders "n/../d").1.read "n/../d/k" = .ok .empty :=
  ⟨rfl, rfl⟩

end Highlight.Files
