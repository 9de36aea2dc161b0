import Highlight.Proofs.Config.Lines
import Highlight.Proofs.Host
import Highlight.Proofs.Text.Decimal

/-!
# What a settings file gives

Each setting is decided by the last line for its key alone: the value there is taken over if it is
acceptable, and otherwise the setting is as it is by default, whatever earlier lines say (`Decided`,
`Follows`). Reading a file gives the one configuration that follows it (`load_iff_follows`). So
other lines do not matter, nor does the order of lines for different keys. What is loaded is fit for
use: the class prefix can stand in an attribute, there is a language, and nothing expires within a
minute.
-/

namespace Highlight.Config

variable {α : Type} {lines lines' : List Text} {key line content : Text} {read : Text → Option α}
  {fallback result : α} {env : Environment} {config : Config}

/-! ## One setting -/

/-- Whether lines decide on a setting: the value of the last line for its key if that is acceptable,
and what it is by default if not, or if there is no such line. -/
inductive Decided (lines : List Text) (key : Text) (read : Text → Option α) (fallback : α) :
    α → Prop where
  | taken {value : Text} {result : α} (last : LastSets lines key value)
      (acceptable : read value = some result) : Decided lines key read fallback result
  | refused {value : Text} (last : LastSets lines key value)
      (unacceptable : read value = none) : Decided lines key read fallback fallback
  | unset (none : ∀ value, ¬ LastSets lines key value) : Decided lines key read fallback fallback

/-- A setting is what its lines decide on. -/
theorem value?_getD_eq_iff : (value? (bindings content) key read).getD fallback = result ↔
    Decided (content.splitOn '\n') key read fallback result := by
  unfold value?
  constructor
  · rintro rfl
    cases last : (bindings content).lookup key with
    | none =>
      refine .unset fun value sets => ?_
      rw [← lookup_bindings_eq_some_iff, last] at sets
      cases sets
    | some value =>
      have sets := lookup_bindings_eq_some_iff.mp last
      rw [Option.bind_some]
      cases accepted : read value with
      | none => exact .refused sets accepted
      | some result => exact .taken sets accepted
  · rintro (⟨last, acceptable⟩ | ⟨last, unacceptable⟩ | unset)
    · rw [lookup_bindings_eq_some_iff.mpr last, Option.bind_some, acceptable, Option.getD_some]
    · rw [lookup_bindings_eq_some_iff.mpr last, Option.bind_some, unacceptable, Option.getD_none]
    · have none : (bindings content).lookup key = none := by
        refine Option.eq_none_iff_forall_ne_some.mpr fun value last => ?_
        exact unset value (lookup_bindings_eq_some_iff.mp last)
      rw [none, Option.bind_none, Option.getD_none]

/-- The same lines for a key decide the same. -/
theorem Decided.congr (same : linesFor key lines = linesFor key lines')
    (decided : Decided lines key read fallback result) :
    Decided lines' key read fallback result := by
  have last : ∀ value, LastSets lines key value ↔ LastSets lines' key value := by
    intro value
    rw [LastSets, LastSets, same]
  rcases decided with ⟨sets, acceptable⟩ | ⟨sets, unacceptable⟩ | unset
  · exact .taken ((last _).mp sets) acceptable
  · exact .refused ((last _).mp sets) unacceptable
  · exact .unset fun value sets => unset value ((last value).mpr sets)

/-- What a setting has in any case: its default has it, and every acceptable value. -/
theorem Decided.ind {P : α → Prop} (decided : Decided lines key read fallback result)
    (default : P fallback) (acceptable : ∀ value result, read value = some result → P result) :
    P result := by
  rcases decided with ⟨-, accepted⟩ | ⟨-, -⟩ | -
  · exact acceptable _ _ accepted
  · exact default
  · exact default

/-! ## All settings -/

/-- Whether a character may be in a class prefix. -/
def IsPlain (c : Char) : Prop := c.isAlphanum = true ∨ c = '-' ∨ c = '_'

instance (c : Char) : Decidable (IsPlain c) :=
  inferInstanceAs (Decidable (c.isAlphanum = true ∨ c = '-' ∨ c = '_'))

/-- The words that turn a setting on. -/
def onWords : List Text := ["true".toList, "yes".toList, "on".toList, "1".toList]

/-- Whether a configuration follows the lines of a settings file. -/
structure Follows (env : Environment) (lines : List Text) (config : Config) : Prop where
  classPrefix : Decided lines "class-prefix"
    (fun value => if ∀ c ∈ value, IsPlain c then some value else none) "fmc-" config.classPrefix
  language : Decided lines "default-language"
    (fun value => if value = [] then none else some value.lower) "javascript" config.language
  cache : Decided lines "cache" (fun value => some (decide (value.lower ∈ onWords))) true
    config.cache
  lifetime : Decided lines "cache-ttl" (fun value => value.toNumeral?.map (max 60))
    (7 * 24 * 60 * 60) config.lifetime
  cacheFolder : Decided lines "cache-dir"
    (fun value => if value = [] then none else some (some value)) (defaultFolder env)
    config.cacheFolder

theorem isClassPrefix_iff {value : Text} : isClassPrefix value = true ↔ ∀ c ∈ value, IsPlain c := by
  simp only [isClassPrefix, IsPlain, List.all_eq_true, Bool.or_eq_true, beq_iff_eq, or_assoc]

theorem isOn_eq (value : Text) : isOn value = decide (value.lower ∈ onWords) := by
  rw [Bool.eq_iff_iff, decide_eq_true_eq]
  simp only [isOn, onWords, List.any_cons, List.any_nil, Bool.or_false, Bool.or_eq_true,
    decide_eq_true_eq, List.mem_cons, List.not_mem_nil, or_false, @eq_comm Text value.lower]

theorem nonEmpty_eq (value : Text) : nonEmpty value = if value = [] then none else some value := by
  simp only [nonEmpty, List.isEmpty_iff]

/-- **The text of a settings file gives what follows its lines**, and nothing else. -/
theorem ofText_eq_iff : ofText env content = config ↔
    Follows env (content.splitOn '\n') config := by
  have classPrefix : (fun value => if isClassPrefix value then some value else none) =
      fun value : Text => if ∀ c ∈ value, IsPlain c then some value else none := by
    funext value
    simp only [isClassPrefix_iff]
  have language : (fun value => (nonEmpty value).map Text.lower) =
      fun value : Text => if value = [] then none else some value.lower := by
    funext value
    rw [nonEmpty_eq, apply_ite (Option.map Text.lower), Option.map_none, Option.map_some]
  have folder : ∀ settings, (value? settings "cache-dir" nonEmpty).or (defaultFolder env) =
      (value? settings "cache-dir" fun value =>
        if value = [] then none else some (some value)).getD (defaultFolder env) := by
    intro settings
    unfold value?
    cases settings.lookup "cache-dir".toList with
    | none => rfl
    | some value =>
      rw [Option.bind_some, Option.bind_some, nonEmpty_eq]
      split <;> rfl
  constructor
  · rintro rfl
    simp only [ofText, apply, classPrefix, language, isOn_eq]
    refine ⟨?_, ?_, ?_, ?_, ?_⟩ <;> rw [← value?_getD_eq_iff]
    · rfl
    · rfl
    · rfl
    · rfl
    · exact (folder _).symm
  · rintro ⟨prefixed, named, cached, lasting, placed⟩
    rw [← value?_getD_eq_iff] at prefixed named cached lasting placed
    rw [← folder] at placed
    simp only [ofText, apply, classPrefix, language, isOn_eq]
    cases config
    simp only [default, mk.injEq]
    exact ⟨prefixed, named, cached, lasting, placed⟩

/-! ## Lines that do not matter -/

/-- The keys of the settings. -/
def keys : List Text :=
  ["class-prefix".toList, "default-language".toList, "cache".toList, "cache-ttl".toList,
    "cache-dir".toList]

/-- Whether a line sets nothing: it is a comment or blank, has no `=`, or is for a key that no
setting has. -/
inductive IsIdle (line : Text) : Prop where
  | comment (sign : line.trim.head? = some '#')
  | blank (none : ∀ c ∈ line, Unicode.isWhiteSpace c = true)
  | bare (absent : '=' ∉ line)
  | unknown (name rest : Text) (whole : line = name ++ '=' :: rest) (first : '=' ∉ name)
    (other : name.trim.lower ∉ keys)

theorem IsIdle.not_isFor (idle : IsIdle line) (mem : key ∈ keys) : ¬ IsFor key line := by
  rintro ⟨value, visible, name, rest, rfl, first, rfl, rfl⟩
  rcases idle with sign | blank | absent | ⟨name', rest', whole, first', other⟩
  · exact visible sign
  · have mark := blank '=' (by simp)
    revert mark
    decide
  · simp at absent
  · have same := (Text.splitOnce?_append first rest).symm.trans
      (whole ▸ Text.splitOnce?_append first' rest')
    obtain ⟨rfl, rfl⟩ := Prod.mk.inj (Option.some.inj same)
    exact other mem

/-- What follows some lines follows others that have the same lines for each key of a setting. -/
theorem Follows.congr (same : ∀ key ∈ keys, linesFor key lines = linesFor key lines')
    (follows : Follows env lines config) : Follows env lines' config where
  classPrefix := follows.classPrefix.congr (same _ (by decide))
  language := follows.language.congr (same _ (by decide))
  cache := follows.cache.congr (same _ (by decide))
  lifetime := follows.lifetime.congr (same _ (by decide))
  cacheFolder := follows.cacheFolder.congr (same _ (by decide))

/-- **Only the lines for the settings matter**, and of these only the order of lines for one key. -/
theorem ofText_congr {changed : Text} (env : Environment) (same : ∀ key ∈ keys,
      linesFor key (content.splitOn '\n') = linesFor key (changed.splitOn '\n')) :
    ofText env content = ofText env changed :=
  (ofText_eq_iff.mpr ((ofText_eq_iff.mp rfl).congr same)).symm

theorem linesFor_idle (idle : IsIdle line) (mem : key ∈ keys) (before after : List Text) :
    linesFor key (before ++ line :: after) = linesFor key (before ++ after) := by
  rw [linesFor_append, linesFor_append, linesFor_cons_of_not (idle.not_isFor mem)]

/-! ## Loading -/

theorem lowerAfter_ne_nil {text : Text} (nonempty : text ≠ []) (before : Text) :
    Unicode.lowerAfter before text ≠ [] := by
  cases text with
  | nil => exact absurd rfl nonempty
  | cons c rest =>
    have here : Unicode.lowerChar c ≠ [] := by
      unfold Unicode.lowerChar
      split
      · exact List.cons_ne_nil _ _
      · split <;> exact List.cons_ne_nil _ _
    simp only [Unicode.lowerAfter]
    refine List.append_ne_nil_of_left_ne_nil ?_ _
    split
    · split <;> exact List.cons_ne_nil _ _
    · exact here

/-- What follows a settings file is fit for use. -/
theorem Follows.fit (follows : Follows env lines config) :
    (∀ c ∈ config.classPrefix, IsPlain c) ∧ config.language ≠ [] ∧ 60 ≤ config.lifetime := by
  refine ⟨follows.classPrefix.ind (P := fun text => ∀ c ∈ text, IsPlain c) (by decide) ?_,
    follows.language.ind (P := (· ≠ [])) (by decide) ?_, follows.lifetime.ind (by decide) ?_⟩
  · intro value result accepted
    split at accepted
    · next plain =>
      cases accepted
      exact plain
    · cases accepted
  · intro value result accepted
    split at accepted
    · cases accepted
    · next nonempty =>
      cases accepted
      exact lowerAfter_ne_nil nonempty []
  · intro value result accepted
    obtain ⟨seconds, -, rfl⟩ := Option.map_eq_some_iff.mp accepted
    exact Nat.le_max_left 60 seconds

/-- A settings file that can be read is taken for what its text gives. -/
theorem run_load_ofText {path : Text} {machine : Machine} (named : path? env = some path)
    (written : machine.files.read path = .ok content.toUtf8) :
    (load Machine.disk env).run machine = (ofText env content, machine) := by
  unfold load
  rw [named]
  dsimp only
  rw [run_bind, Machine.run_readText, written]
  simp only [Except.bind, Text.ofUtf8?_toUtf8, Option.elim]
  rfl

/-- **Loading follows the last line for each key.** What is loaded from a settings file follows its
lines, and nothing else does. Idle lines put into the file do not change what is loaded, nor does
another order of the lines for different keys. What is loaded is fit for use. -/
theorem load_iff_follows (env : Environment) {path : Text} (named : path? env = some path)
    (machine : Machine) (content : Text)
    (written : machine.files.read path = .ok content.toUtf8) :
    let lines := content.splitOn '\n'
    let loaded := ((load Machine.disk env).run machine).1
    (∀ config, loaded = config ↔ Follows env lines config) ∧
    (∀ (other : Machine) (changed : Text), other.files.read path = .ok changed.toUtf8 →
      ((∃ before line after, lines = before ++ after ∧
          changed.splitOn '\n' = before ++ line :: after ∧ IsIdle line) ∨
        ∀ key ∈ keys, linesFor key lines = linesFor key (changed.splitOn '\n')) →
      ((load Machine.disk env).run other).1 = loaded) ∧
    (∀ c ∈ loaded.classPrefix, IsPlain c) ∧ loaded.language ≠ [] ∧ 60 ≤ loaded.lifetime := by
  intro lines loaded
  have given : loaded = ofText env content := congrArg Prod.fst (run_load_ofText named written)
  have follows : ∀ config, loaded = config ↔ Follows env lines config := by
    intro config
    rw [given, ofText_eq_iff]
  refine ⟨follows, ?_, ((follows loaded).mp rfl).fit⟩
  intro other changed rewritten alike
  rw [run_load_ofText named rewritten, given]
  refine (ofText_congr env ?_).symm
  rcases alike with ⟨before, line, after, whole, inserted, idle⟩ | same
  · intro key mem
    have whole : content.splitOn '\n' = before ++ after := whole
    rw [whole, inserted, linesFor_idle idle mem]
  · exact same

/-- A class prefix that is not acceptable hides an acceptable one before it. A comment does not
count, an `=` in a value does not end it, and neither a word nor another order changes anything. -/
theorem load_iff_follows_hidden :
    let env : Environment := ⟨some "h", none⟩
    let content : Text :=
      "class-prefix = hl-\n# cache = off\nCLASS-PREFIX = a'b\ncache-ttl=5\ncache-dir = /x=y"
    let inserted : Text :=
      "class-prefix = hl-\n# cache = off\nword\nCLASS-PREFIX = a'b\ncache-ttl=5\ncache-dir = /x=y"
    let reordered : Text :=
      "cache-dir = /x=y\nclass-prefix = hl-\ncache-ttl=5\nCLASS-PREFIX = a'b\n# cache = off"
    let home : Files := { entries := [(["h".toList], .folder)] }
    let machine := fun text : Text =>
      { files := home.put ["h".toList, ".fmc.conf".toList] (.file text.toUtf8) : Machine }
    let config : Config := ⟨"fmc-", "javascript", true, 60, some "/x=y"⟩
    path? env = some "h/.fmc.conf" ∧
      (∀ text, (machine text).files.read "h/.fmc.conf" = .ok text.toUtf8) ∧
      Follows env (content.splitOn '\n') config ∧
      ((load Machine.disk env).run (machine content)).1 = config ∧
      ((load Machine.disk env).run (machine inserted)).1 = config ∧
      ((load Machine.disk env).run (machine reordered)).1 = config := by
  intro env content inserted reordered home machine config
  have named : path? env = some "h/.fmc.conf" := by decide
  have written : ∀ text, (machine text).files.read "h/.fmc.conf" = .ok text.toUtf8 := by
    intro text
    rfl
  obtain ⟨follows, others, -⟩ := load_iff_follows env named (machine content) content (written _)
  have loaded : ((load Machine.disk env).run (machine content)).1 = config := by
    rw [run_load_ofText named (written content)]
    decide +kernel
  refine ⟨named, written, (follows config).mp loaded, loaded, ?_, ?_⟩
  · rw [others (machine inserted) inserted (written _) (.inl ⟨["class-prefix = hl-".toList,
      "# cache = off".toList], "word", ["CLASS-PREFIX = a'b".toList, "cache-ttl=5".toList,
      "cache-dir = /x=y".toList], by decide, by decide, .bare (by decide)⟩), loaded]
  · rw [others (machine reordered) reordered (written _) (.inr (by decide +kernel)), loaded]

end Highlight.Config
