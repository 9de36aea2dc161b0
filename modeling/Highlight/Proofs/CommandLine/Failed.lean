import Highlight.Proofs.CommandLine.Arguments
import Highlight.Proofs.CommandLine.Observe

/-!
# Runs that fail

A run of the command fails if its arguments are refused, or all of them are read and what they ask to
highlight cannot be (`Fails`). Then it has written nothing and the world is as it was
(`run_of_fails`); every other run succeeds, whatever becomes of its settings and its cache
(`run_of_not_fails`). So the code of a run tells which of the two it was
(`failed_run_changes_nothing`).

Of several operands, one that is no dash is refused before anything is read, and a dash is not
(`operands_refused_iff`).
-/

namespace Highlight.CommandLine

variable {σ : Type} {host : Host (StateM σ)} {world : σ} {arguments front operands : List Text}

/-- Whether there is an error in arguments before any request, or there is neither of these and what
is to be highlighted cannot be read. -/
def Fails (host : Host (StateM σ)) (world : σ) (arguments : List Text) : Prop :=
  Refused arguments ∨
    ∃ operands, Passes arguments operands ∧ ¬ IsReadable host world operands.getLast?

/-! ## Runs -/

theorem run_of_error {m : Type → Type} [Monad m] (host : Host m) {error : UsageError}
    (refused : read arguments = .error error) :
    run host arguments = pure (.failure error.message) := by
  unfold run
  rw [refused]

theorem run_of_highlight {m : Type → Type} [Monad m] (host : Host m) {options : Options}
    (asked : read arguments = .ok (.highlight options)) :
    run host arguments = highlight host options := by
  unfold run
  rw [asked]

/-- A run is asked to highlight if all of its arguments can be passed over and no operand is one too
many. -/
theorem run_of_passes (passes : Passes arguments operands) (fine : surplus? operands = none) :
    ∃ options : Options, options.file = operands.getLast? ∧
      ∀ {m : Type → Type} [Monad m] (host : Host m), run host arguments = highlight host options := by
  obtain ⟨options, asked, file⟩ := read_highlight_iff.mpr ⟨operands, passes, fine, rfl⟩
  exact ⟨options, file, fun host => run_of_highlight host asked⟩

/-- An operand that is one too many is refused, whatever stands behind it, and nothing is read. -/
theorem run_of_surplus {m : Type → Type} [Monad m] (host : Host m) {text : Text}
    (passes : Passes front operands) (surplus : surplus? operands = some text) (rest : List Text) :
    run host (front ++ rest) = pure (.failure (UsageError.unexpectedArgument text).message) :=
  run_of_error host ((read_passes passes).1 text surplus rest)

/-- **A run that fails** has written nothing, and leaves the world as it is. -/
theorem run_of_fails (observes : host.Observes) (fails : Fails host world arguments) :
    ∃ message, (run host arguments).run world = (.failure message, world) := by
  rcases fails with refused | ⟨operands, passes, unreadable⟩
  · obtain ⟨error, refused⟩ := refused_iff.mpr refused
    rw [run_of_error host refused]
    exact ⟨error.message, rfl⟩
  · cases more : surplus? operands with
    | some text =>
      have refused := run_of_surplus host passes more []
      rw [List.append_nil] at refused
      rw [refused]
      exact ⟨_, rfl⟩
    | none =>
      obtain ⟨options, file, asked⟩ := run_of_passes passes more
      rw [← file, ← exists_code_iff observes] at unreadable
      rw [asked, observes.run_highlight]
      cases code : ((readCode host options).run world).1 with
      | error failure => exact ⟨failure.message, rfl⟩
      | ok code => exact absurd ⟨_, code⟩ unreadable

/-- **A run that does not fail** succeeds, whatever becomes of its settings and its cache. -/
theorem run_of_not_fails (observes : host.Observes) (fine : ¬ Fails host world arguments) :
    ∃ output after, (run host arguments).run world = (.success output, after) := by
  obtain ⟨allowed, readable⟩ := not_or.mp fine
  unfold run
  cases asked : read arguments with
  | error error => exact absurd (refused_iff.mp ⟨error, asked⟩) allowed
  | ok request =>
    cases request with
    | help => exact ⟨_, _, rfl⟩
    | version => exact ⟨_, _, rfl⟩
    | languages => exact ⟨_, _, rfl⟩
    | highlight options =>
      obtain ⟨operands, passes, -, file⟩ := read_highlight_iff.mp ⟨options, asked, rfl⟩
      have there : IsReadable host world options.file := Classical.byContradiction
        fun unreadable => readable ⟨operands, passes, file ▸ unreadable⟩
      obtain ⟨code, there⟩ := (exists_code_iff observes options world).mpr there
      dsimp only
      rw [observes.run_highlight, there]
      exact ⟨_, _, rfl⟩

/-- **A run that fails changes nothing**: where the code is 1, nothing was written to standard output
and the world, with all its files, is as it was. That is so if and only if there is an error in the
arguments before any request, or neither of these is there and what is to be highlighted cannot be
read as text. -/
theorem failed_run_changes_nothing (observes : host.Observes) (arguments : List Text) (world : σ) :
    let outcome := ((run host arguments).run world).1
    let after := ((run host arguments).run world).2
    (outcome.code = 1 → outcome.output = [] ∧ after = world) ∧
      (outcome.code = 1 ↔ Refused arguments ∨
        ∃ operands, Passes arguments operands ∧ ¬ IsReadable host world operands.getLast?) := by
  intro outcome after
  by_cases fails : Fails host world arguments
  · obtain ⟨message, failed⟩ := run_of_fails observes fails
    have code : outcome.code = 1 := congrArg (·.1.code) failed
    have output : outcome.output = [] := congrArg (·.1.output) failed
    have same : after = world := congrArg Prod.snd failed
    exact ⟨fun _ => ⟨output, same⟩, fun _ => fails, fun _ => code⟩
  · obtain ⟨output, later, succeeded⟩ := run_of_not_fails observes fails
    have success : outcome.code = 0 := congrArg (·.1.code) succeeded
    have code : outcome.code ≠ 1 := by rw [success]; exact Nat.zero_ne_one
    exact ⟨fun one => absurd one code, fun one => absurd one code, fun failed => absurd failed fails⟩

/-- The identifier for the button looks like a request, and standard input is no text. Neither the
settings nor an entry of the cache that is past its time make a difference. -/
theorem failed_run_changes_nothing_input :
    let machine : Machine :=
      { files := { entries := [(["h".toList], .folder),
          (["h".toList, ".fmc.conf".toList], .file (Text.toUtf8 "cache-dir = /h")),
          (["h".toList, "fmc_0.html".toList], .file (Text.toUtf8 "0\n"))] },
        time := 7, input := ⟨#[255]⟩, environment := ⟨some "/h", none⟩ }
    let ran := (run Machine.host ["-i", "--help", "-b", "-"]).run machine
    Machine.host.Observes ∧ ran.1.code = 1 ∧ ran.1.output = [] ∧ ran.2 = machine := by
  intro machine ran
  have passes : Passes ["-i", "--help", "-b", "-"] ["-"] :=
    .value (by decide) (.flag (by decide) (.operand (by decide) .nil))
  have unreadable : ¬ IsReadable Machine.host machine (some "-") := by
    rintro ⟨text, read⟩
    have noText : Text.ofUtf8? ⟨#[255]⟩ = none := by decide
    have bytes : (⟨#[255]⟩ : ByteArray) = text.toUtf8 := Except.ok.inj read
    rw [bytes, Text.ofUtf8?_toUtf8] at noText
    cases noText
  obtain ⟨nothing, fails⟩ :=
    failed_run_changes_nothing Machine.observes ["-i", "--help", "-b", "-"] machine
  have code : ran.1.code = 1 := fails.mpr (.inr ⟨_, passes, unreadable⟩)
  obtain ⟨output, same⟩ := nothing code
  exact ⟨Machine.observes, code, output, same⟩

/-! ## Operands -/

/-- Whether a run fails with an error before anything is read, whatever stands behind some
arguments. -/
def FailsUnread (front : List Text) (error : UsageError) : Prop :=
  ∀ {m : Type → Type} [Monad m] (host : Host m) (rest : List Text),
    run host (front ++ rest) = pure (.failure error.message)

/-- The message of a failed run is in what it writes. -/
theorem failure_inj {message message' : Text}
    (same : Outcome.failure message = Outcome.failure message') : message = message' := by
  have errors := Option.some.inj (congrArg Outcome.error same)
  exact List.append_cancel_left (List.append_cancel_right errors)

theorem unexpectedArgument_inj {text text' : Text}
    (same : (UsageError.unexpectedArgument text).message =
      (UsageError.unexpectedArgument text').message) : text = text' :=
  List.append_cancel_left (List.append_cancel_right same)

/-- An operand that is refused is one too many. -/
theorem surplus?_of_failsUnread {text : Text} (passes : Passes front operands)
    (fails : FailsUnread front (.unexpectedArgument text)) : surplus? operands = some text := by
  have refused := fails Machine.host []
  cases more : surplus? operands with
  | some other =>
    rw [run_of_surplus Machine.host passes more []] at refused
    have outcome := congrArg (fun act => (act.run ({} : Machine)).1) refused
    rw [unexpectedArgument_inj (failure_inj outcome)]
  | none =>
    obtain ⟨options, -, asked⟩ := run_of_passes passes more
    rw [List.append_nil, asked Machine.host] at refused
    have outcome := congrArg (fun act => (act.run ({} : Machine)).1) refused
    rw [Machine.observes.run_highlight] at outcome
    cases code : ((readCode Machine.host options).run {}).1 with
    | error failure =>
      rw [code] at outcome
      have letters := congrArg List.head? (failure_inj outcome)
      cases letters
    | ok text =>
      rw [code] at outcome
      cases outcome

/-- Where nothing but dashes follows, the last of several operands is a dash. -/
theorem getLast?_of_dashes (more : 2 ≤ operands.length)
    (dashes : ∀ operand ∈ operands.tail, operand = standardInput) :
    operands.getLast? = some standardInput := by
  match operands with
  | first :: second :: others =>
    have last : (second :: others).getLast? = some standardInput := by
      rw [List.getLast?_eq_some_getLast (List.cons_ne_nil second others)]
      exact congrArg some (dashes _ (List.getLast_mem _))
    rwa [List.getLast?_cons_cons]

/-- **Operands behind another** are refused, before anything is read, if and only if one of them is
no dash: the first such is the unexpected argument. If all of them are dashes, standard input is
highlighted. -/
theorem operands_refused_iff (passes : Passes front operands) (more : 2 ≤ operands.length) :
    (∀ text, FailsUnread front (.unexpectedArgument text) ↔
      operands.tail.find? (· ≠ standardInput) = some text) ∧
    ((∀ operand ∈ operands.tail, operand = standardInput) → ∃ options : Options,
      options.file = some standardInput ∧
        ∀ {m : Type → Type} [Monad m] (host : Host m), run host front = highlight host options) := by
  refine ⟨fun text => ⟨surplus?_of_failsUnread passes, ?_⟩, ?_⟩
  · intro surplus _ _ host rest
    exact run_of_surplus host passes surplus rest
  · intro dashes
    have fine : surplus? operands = none := by
      simpa [surplus?, List.find?_eq_none] using dashes
    obtain ⟨options, file, asked⟩ := run_of_passes passes fine
    exact ⟨options, file.trans (getLast?_of_dashes more dashes), asked⟩

/-- The dash behind the first file passes, the file behind the dash does not. -/
theorem operands_refused_iff_dash :
    Passes ["a.c", "-l", "b.c", "-", "-b", "c.c"] ["a.c", "-", "c.c"] ∧
      FailsUnread ["a.c", "-l", "b.c", "-", "-b", "c.c"] (.unexpectedArgument "c.c") := by
  have passes : Passes ["a.c", "-l", "b.c", "-", "-b", "c.c"] ["a.c", "-", "c.c"] :=
    .operand (by decide) (.value (by decide) (.operand (by decide) (.flag (by decide)
      (.operand (by decide) .nil))))
  obtain ⟨refused, -⟩ := operands_refused_iff passes (by decide)
  exact ⟨passes, (refused "c.c").mpr (by decide)⟩

/-- A dash behind a file is not refused: it takes the file's place, and standard input is
highlighted. -/
theorem dash_takes_place :
    Passes ["-l", "text", "a.c", "-"] ["a.c", "-"] ∧
      (∀ text, ¬ FailsUnread ["-l", "text", "a.c", "-"] (.unexpectedArgument text)) ∧
      ((run Machine.host ["-l", "text", "a.c", "-"]).run { input := Text.toUtf8 "x" }).1 =
        .success "x\n" := by
  have passes : Passes ["-l", "text", "a.c", "-"] ["a.c", "-"] :=
    .value (by decide) (.operand (by decide) (.operand (by decide) .nil))
  refine ⟨passes, ?_, by decide +kernel⟩
  intro text fails
  have surplus := surplus?_of_failsUnread passes fails
  cases surplus

end Highlight.CommandLine
