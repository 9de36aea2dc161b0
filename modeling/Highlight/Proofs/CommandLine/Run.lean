import Highlight.Proofs.Cache.File
import Highlight.Proofs.Cache.Transparent
import Highlight.Proofs.CommandLine.Observe
import Highlight.Proofs.Highlighter

/-!
# Runs of the command on a machine

A run reads its settings and the code and leaves the machine as it is, but for what it does in the
folder of its cache. There it makes one call of a highlighter at most (`concern?`). What it writes
is a function of what the call gives, and the same run without a cache writes what that function
makes of the rendering (`run_cases`).
-/

namespace Highlight.CommandLine

variable {machine : Machine} {options : Options} {config : Config} {code : Text}

/-! ## Arguments -/

/-- The option that keeps a run from its cache. -/
def noCacheOption : Text := "--no-cache"

/-- What is asked for, but without a cache. -/
def Request.withoutCache : Request → Request
  | highlight options => highlight { options with noCache := true }
  | other => other

/-- That no cache is wanted does not change what else is read. -/
theorem readFrom_noCache (options : Options) (arguments : List Text) :
    readFrom { options with noCache := true } arguments =
      (readFrom options arguments).map Request.withoutCache := by
  fun_induction readFrom options arguments
  case case1 => rfl
  case case14 known full =>
    rw [readFrom.eq_def]
    simp only [known, full, if_true]
    rfl
  case case15 known free ih =>
    rw [readFrom.eq_def]
    simp only [known, free]
    exact ih
  -- Every other argument decides by itself, or leaves it to the rest.
  all_goals
    rw [readFrom.eq_def]
    simp only [‹Argument.ofText _ = _›]
    first
    | rfl
    | assumption

/-- **The option in front** asks for the same without a cache. -/
theorem read_noCache (arguments : List Text) :
    read (noCacheOption :: arguments) = (read arguments).map Request.withoutCache := by
  have first : Argument.ofText noCacheOption = .noCache := by decide
  unfold read
  rw [← readFrom_noCache, readFrom.eq_def]
  simp only [first]

/-! ## What a run reads -/

/-- The settings on a machine. -/
def configOf (machine : Machine) : Config :=
  ((Config.load Machine.disk machine.environment).run machine).1

/-- The code that a run on a machine highlights. -/
def codeOf (machine : Machine) (options : Options) : Except Failure Text :=
  ((readCode Machine.host options).run machine).1

/-! ## What a run writes -/

/-- The call for the markup of some code. -/
def callFor (config : Config) (options : Options) (code : Text) : Call where
  classPrefix := config.classPrefix
  lifetime := .ofSeconds config.lifetime
  code := code
  language := options.language.getD config.language

/-- What is written for some code, the markup of which is given. -/
def written (config : Config) (options : Options) (code markup : Text) : Text :=
  let language := options.language.getD config.language
  (if options.block then
    if code.isEmpty then []
    else Markup.block config.classPrefix (Registry.builtin.resolve language).label language
      options.id markup
  else markup) ++ ['\n']

/-- The folder of the cache that a run uses, if any. -/
def cacheFolder? (config : Config) (options : Options) : Option Text :=
  if config.cache && !options.noCache then config.cacheFolder else none

theorem shelf?_eq (config : Config) (options : Options) :
    shelf? Machine.host config options = (cacheFolder? config options).map fun folder =>
      ⟨(Machine.fileCache folder).renderCache, .ofSeconds config.lifetime⟩ := by
  unfold shelf? cacheFolder?
  split <;> rfl

/-- Markup is written as the highlighter gives it. -/
theorem run_present (machine : Machine) (config : Config) (code : Text)
    (markup : options.terminal = false) :
    (present Machine.host config options code).run machine =
      let given := (Highlighter.highlight { classPrefix := config.classPrefix }
        (shelf? Machine.host config options) code
        (options.language.getD config.language)).run machine
      (written config options code given.1, given.2) := by
  unfold present written
  simp only [markup, Bool.false_eq_true, if_false]
  cases options.block with
  | false => rfl
  | true =>
    simp only [if_true]
    rw [run_bind, Highlighter.run_block]
    rfl

/-- **A run that highlights** reads its settings and the code and writes something for them. -/
theorem run_highlight (machine : Machine) (options : Options) :
    (highlight Machine.host options).run machine =
      match codeOf machine options with
      | .error failure => (.failure failure.message, machine)
      | .ok code =>
        let presented := (present Machine.host (configOf machine) options code).run machine
        (.success presented.1, presented.2) :=
  Machine.observes.run_highlight options machine

/-! ## What a run has to do with a cache -/

/-- The folder of the cache that a run on a machine uses, and the call that it makes there. -/
def concern? (machine : Machine) (arguments : List Text) : Option (Text × Call) :=
  match read arguments with
  | .ok (.highlight options) =>
    match codeOf machine options with
    | .ok code =>
      if options.terminal then none
      else (cacheFolder? (configOf machine) options).map fun folder =>
        (folder, callFor (configOf machine) options code)
    | .error _ => none
  | _ => none

/-- A preview is written without a cache. -/
theorem run_present_terminal (terminal : options.terminal = true) (machine : Machine)
    (config : Config) (code : Text) : ∃ output,
      (present Machine.host config options code).run machine = (output, machine) ∧
      (present Machine.host config { options with noCache := true } code).run machine =
        (output, machine) := by
  unfold present
  simp only [terminal, if_true]
  exact ⟨_, rfl, rfl⟩

/-- Without a cache, what is written is written for the rendering. -/
theorem run_present_of_none (markup : options.terminal = false)
    (none : cacheFolder? config options = none) (machine : Machine) (code : Text) :
    (present Machine.host config options code).run machine =
      (written config options code ((callFor config options code).render .builtin), machine) := by
  rw [run_present machine config code markup, shelf?_eq, none, Option.map_none,
    Highlighter.run_highlight_none]
  rfl

theorem run_present_noCache (markup : options.terminal = false) (machine : Machine)
    (config : Config) (code : Text) :
    (present Machine.host config { options with noCache := true } code).run machine =
      (written config options code ((callFor config options code).render .builtin), machine) := by
  let without : Options := { options with noCache := true }
  have preview : without.terminal = false := markup
  have none : cacheFolder? config without = none := by simp [cacheFolder?, without]
  exact run_present_of_none preview none machine code

/-- **A run has nothing to do with a cache**, or it makes one call there and writes something that
depends on what the call gives. Without a cache, it writes the same, for the rendering. -/
theorem run_cases (machine : Machine) (arguments : List Text) :
    (concern? machine arguments = none ∧ ∃ outcome,
      (run Machine.host arguments).run machine = (outcome, machine) ∧
      (run Machine.host (noCacheOption :: arguments)).run machine = (outcome, machine)) ∨
    ∃ folder call, ∃ outcomeOf : Text → Outcome,
      concern? machine arguments = some (folder, call) ∧
      (run Machine.host arguments).run machine =
        (let given := (call.highlight .builtin (Machine.fileCache folder).renderCache).run machine
         (outcomeOf given.1, given.2)) ∧
      (run Machine.host (noCacheOption :: arguments)).run machine =
        (outcomeOf (call.render .builtin), machine) := by
  unfold run concern?
  rw [read_noCache]
  cases read arguments with
  | error error => exact .inl ⟨rfl, _, rfl, rfl⟩
  | ok request =>
    cases request with
    | help => exact .inl ⟨rfl, _, rfl, rfl⟩
    | version => exact .inl ⟨rfl, _, rfl, rfl⟩
    | languages => exact .inl ⟨rfl, _, rfl, rfl⟩
    | highlight options =>
      have same : codeOf machine { options with noCache := true } = codeOf machine options := rfl
      simp only [Except.map, Request.withoutCache, run_highlight, same]
      cases codeOf machine options with
      | error failure => exact .inl ⟨rfl, _, rfl, rfl⟩
      | ok code =>
        by_cases terminal : options.terminal = true
        · obtain ⟨output, here, there⟩ :=
            run_present_terminal terminal machine (configOf machine) code
          simp only [here, there, if_pos terminal]
          exact .inl ⟨trivial, _, rfl, rfl⟩
        · have markup : options.terminal = false := Bool.eq_false_iff.mpr terminal
          simp only [run_present_noCache markup, if_neg terminal]
          cases folder : cacheFolder? (configOf machine) options with
          | none =>
            simp only [run_present_of_none markup folder machine code]
            exact .inl ⟨rfl, _, rfl, rfl⟩
          | some folder' =>
            refine .inr ⟨folder', callFor (configOf machine) options code,
              fun markup => .success (written (configOf machine) options code markup), rfl, ?_, rfl⟩
            rw [run_present machine (configOf machine) code markup, shelf?_eq, folder]
            rfl

end Highlight.CommandLine
