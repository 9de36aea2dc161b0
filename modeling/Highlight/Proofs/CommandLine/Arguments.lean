import Highlight.CommandLine.Arguments

/-!
# What arguments ask for

Arguments are options, some of them with a value behind them, and operands, which name what is to be
highlighted (`Passes`). An operand behind another is one too many unless it is a dash (`surplus?`):
up to the first such operand everything is read, and the last operand counts (`readFrom_passes`).
Arguments are refused if some of them can be passed over and an error stands behind these
(`refused_iff`), and they ask for highlighting if all of them can be passed over and no operand is
one too many (`read_highlight_iff`).
-/

namespace Highlight.CommandLine

variable {text : Text} {front rest arguments operands : List Text} {options : Options}

/-- Options that are answered at once. -/
def requests : List Text := ["--help", "-h", "--version", "-V", "--list"]

/-- Options with a value, which is the argument behind them. -/
def valueOptions : List Text := ["--lang", "-l", "--id", "-i"]

/-- Options without a value. -/
def flags : List Text := ["--block", "-b", "--terminal", "-t", "--no-cache"]

/-- Whether an argument names something to highlight: a bare dash, or what starts with no dash. -/
def IsOperand (text : Text) : Prop := text = standardInput ∨ text.head? ≠ some '-'

instance : DecidablePred IsOperand := fun text =>
  inferInstanceAs (Decidable (text = standardInput ∨ text.head? ≠ some '-'))

/-- Arguments that can be passed over, with the operands among them. -/
inductive Passes : List Text → List Text → Prop
  | nil : Passes [] []
  | flag {text : Text} {rest operands : List Text} :
      text ∈ flags → Passes rest operands → Passes (text :: rest) operands
  | value {text value : Text} {rest operands : List Text} :
      text ∈ valueOptions → Passes rest operands → Passes (text :: value :: rest) operands
  | operand {text : Text} {rest operands : List Text} :
      IsOperand text → Passes rest operands → Passes (text :: rest) (text :: operands)

/-- The first operand that is one too many: there is one in front of it, and it is no dash. -/
def surplus? (operands : List Text) : Option Text := operands.tail.find? (· ≠ standardInput)

/-- Whether the first argument behind some operands is an error: an option that is not known, one
that lacks its value, or an operand that is one too many. -/
inductive Offends (operands : List Text) : List Text → Prop
  | unknown {text : Text} {rest : List Text} : text.head? = some '-' → text ≠ standardInput →
      text ∉ requests ++ valueOptions ++ flags → Offends operands (text :: rest)
  | valueless {text : Text} : text ∈ valueOptions → Offends operands [text]
  | surplus {text : Text} {rest : List Text} : text.head? ≠ some '-' → operands ≠ [] →
      Offends operands (text :: rest)

/-- Whether there is an error in arguments before any of them is answered at once. -/
def Refused (arguments : List Text) : Prop :=
  ∃ front operands rest, arguments = front ++ rest ∧ Passes front operands ∧ Offends operands rest

/-! ## Single arguments -/

theorem ofText_of_not_spelled (h : ∀ spelling ∈ spellings, text ≠ spelling.1) :
    Argument.ofText text = if text.head? = some '-' then .unknown else .file := by
  have none : spellings.lookup text = none :=
    List.lookup_eq_none_iff.mpr fun spelling mem => bne_iff_ne.mpr (h spelling mem)
  rw [Argument.ofText, none, Option.getD_none]

theorem ofText_file (h : text.head? ≠ some '-') : Argument.ofText text = .file := by
  have dashed : ∀ spelling ∈ spellings, spelling.1.head? = some '-' := by decide
  have absent : ∀ spelling ∈ spellings, text ≠ spelling.1 := by
    rintro spelling mem rfl
    exact h (dashed spelling mem)
  rw [ofText_of_not_spelled absent, if_neg h]

theorem ofText_unknown (dash : text.head? = some '-') (more : text ≠ standardInput)
    (h : text ∉ requests ++ valueOptions ++ flags) : Argument.ofText text = .unknown := by
  have known : ∀ spelling ∈ spellings, spelling.1 = standardInput ∨
      spelling.1 ∈ requests ++ valueOptions ++ flags := by decide
  have absent : ∀ spelling ∈ spellings, text ≠ spelling.1 := by
    rintro spelling mem rfl
    exact (known spelling mem).elim more h
  rw [ofText_of_not_spelled absent, if_pos dash]

/-- A request is answered, whatever stands behind it. -/
theorem readFrom_request (h : text ∈ requests) (options : Options) (rest : List Text) :
    ∃ request, readFrom options (text :: rest) = .ok request ∧
      ∀ options, request ≠ .highlight options := by
  have kinds : ∀ text ∈ requests, Argument.ofText text = .help ∨
      Argument.ofText text = .version ∨ Argument.ofText text = .languages := by decide
  rw [readFrom.eq_def]
  rcases kinds text h with kind | kind | kind
  · exact ⟨.help, by simp only [kind], fun _ => by simp⟩
  · exact ⟨.version, by simp only [kind], fun _ => by simp⟩
  · exact ⟨.languages, by simp only [kind], fun _ => by simp⟩

theorem readFrom_flag (h : text ∈ flags) (options : Options) :
    ∃ later : Options, later.file = options.file ∧
      ∀ rest, readFrom options (text :: rest) = readFrom later rest := by
  have kinds : ∀ text ∈ flags, Argument.ofText text = .block ∨
      Argument.ofText text = .terminal ∨ Argument.ofText text = .noCache := by decide
  rcases kinds text h with kind | kind | kind
  · exact ⟨{ options with block := true }, rfl, fun rest => by rw [readFrom.eq_def]; simp only [kind]⟩
  · exact ⟨{ options with terminal := true }, rfl,
      fun rest => by rw [readFrom.eq_def]; simp only [kind]⟩
  · exact ⟨{ options with noCache := true }, rfl,
      fun rest => by rw [readFrom.eq_def]; simp only [kind]⟩

theorem ofText_value (h : text ∈ valueOptions) :
    Argument.ofText text = .language ∨ Argument.ofText text = .id := by
  have kinds : ∀ text ∈ valueOptions, Argument.ofText text = .language ∨
      Argument.ofText text = .id := by decide
  exact kinds text h

theorem readFrom_value (h : text ∈ valueOptions) (options : Options) (value : Text) :
    ∃ later : Options, later.file = options.file ∧
      ∀ rest, readFrom options (text :: value :: rest) = readFrom later rest := by
  rcases ofText_value h with kind | kind
  · exact ⟨{ options with language := some value }, rfl,
      fun rest => by rw [readFrom.eq_def]; simp only [kind]⟩
  · exact ⟨{ options with id := some value }, rfl,
      fun rest => by rw [readFrom.eq_def]; simp only [kind]⟩

theorem readFrom_valueless (h : text ∈ valueOptions) (options : Options) :
    readFrom options [text] = .error (.missingValue text) := by
  rw [readFrom.eq_def]
  rcases ofText_value h with kind | kind <;> simp only [kind]

/-- An operand takes the place of the one before, if there is none or it is a dash. -/
theorem readFrom_operand (h : IsOperand text)
    (free : options.file = none ∨ text = standardInput) (rest : List Text) :
    readFrom options (text :: rest) = readFrom { options with file := some text } rest := by
  have dash : Argument.ofText standardInput = .input := by decide
  rw [readFrom.eq_def]
  by_cases same : text = standardInput
  · subst same
    simp only [dash]
  · have kind := ofText_file (h.resolve_left same)
    have none : options.file = none := free.resolve_right same
    simp [kind, none]

theorem readFrom_surplus (h : text.head? ≠ some '-') (taken : options.file ≠ none)
    (rest : List Text) : readFrom options (text :: rest) = .error (.unexpectedArgument text) := by
  rw [readFrom.eq_def]
  simp only [ofText_file h]
  rw [if_pos (Option.isSome_iff_ne_none.mpr taken)]

/-! ## Arguments that are passed over -/

theorem surplus?_append (some : front ≠ []) : surplus? (front ++ rest) =
    (surplus? front).or (rest.find? (· ≠ standardInput)) := by
  rw [surplus?, List.tail_append_of_ne_nil some, List.find?_append]
  rfl

/-- One more operand is too many, or takes the place of those in front of it. -/
theorem surplus?_concat (fine : surplus? operands = none) (text : Text) :
    surplus? (operands ++ [text]) = none ∧ (operands = [] ∨ text = standardInput) ∨
      operands ≠ [] ∧ text ≠ standardInput ∧
        ∀ rest, surplus? (operands ++ text :: rest) = some text := by
  by_cases first : operands = []
  · exact .inl ⟨by rw [first]; rfl, .inl first⟩
  · by_cases dash : text = standardInput
    · refine .inl ⟨?_, .inr dash⟩
      rw [surplus?_append first, fine, dash]
      rfl
    · refine .inr ⟨first, dash, fun rest => ?_⟩
      rw [surplus?_append first, fine, Option.none_or, List.find?_cons_of_pos (by simpa using dash)]

/-- **Arguments that can be passed over** behind some operands are an error at the operand that is
one too many. If there is none, the last operand is the file for what stands behind them. -/
theorem readFrom_passes (passes : Passes front operands) {before : List Text}
    (fine : surplus? before = none) (file : options.file = before.getLast?) :
    (∀ text, surplus? (before ++ operands) = some text →
      ∀ rest, readFrom options (front ++ rest) = .error (.unexpectedArgument text)) ∧
    (surplus? (before ++ operands) = none → ∃ later : Options,
      later.file = (before ++ operands).getLast? ∧
        ∀ rest, readFrom options (front ++ rest) = readFrom later rest) := by
  induction passes generalizing options before with
  | nil =>
    rw [List.append_nil, fine]
    refine ⟨?_, fun _ => ⟨options, file, fun _ => rfl⟩⟩
    rintro _ ⟨⟩
  | flag known _ ih =>
    obtain ⟨later, same, read⟩ := readFrom_flag known options
    simp only [List.cons_append, read]
    exact ih fine (same.trans file)
  | @value _ value _ _ known _ ih =>
    obtain ⟨later, same, read⟩ := readFrom_value known options value
    simp only [List.cons_append, read]
    exact ih fine (same.trans file)
  | @operand text rest operands named _ ih =>
    rcases surplus?_concat fine text with ⟨still, free⟩ | ⟨taken, more, surplus⟩
    · have vacant : options.file = none ∨ text = standardInput :=
        free.imp_left fun first => by rw [file, first, List.getLast?_nil]
      have last : ({ options with file := some text } : Options).file =
          (before ++ [text]).getLast? := by simp
      have next := ih still last
      simp only [List.cons_append, readFrom_operand named vacant]
      rwa [List.append_assoc, List.singleton_append] at next
    · have occupied : options.file ≠ none := by
        rw [file]
        exact fun none => taken (List.getLast?_eq_none_iff.mp none)
      rw [surplus operands]
      refine ⟨?_, fun none => nomatch none⟩
      rintro _ ⟨⟩ later
      exact readFrom_surplus (named.resolve_left more) occupied (rest ++ later)

/-- What an argument can be. -/
theorem argument_cases (text : Text) :
    text ∈ flags ∨ text ∈ valueOptions ∨ text ∈ requests ∨ IsOperand text ∨
      (text.head? = some '-' ∧ text ≠ standardInput ∧
        text ∉ requests ++ valueOptions ++ flags) := by
  by_cases named : IsOperand text
  · exact .inr (.inr (.inr (.inl named)))
  · obtain ⟨more, dash⟩ := not_or.mp named
    by_cases known : text ∈ requests ++ valueOptions ++ flags
    · rw [List.mem_append, List.mem_append] at known
      rcases known with (request | value) | flag
      · exact .inr (.inr (.inl request))
      · exact .inr (.inl value)
      · exact .inl flag
    · exact .inr (.inr (.inr (.inr ⟨Decidable.not_not.mp dash, more, known⟩)))

/-- Whether arguments behind operands, if there are any, begin with a request or an error. -/
def Ends (operands rest : List Text) : Prop :=
  rest = [] ∨ (∃ text later, rest = text :: later ∧ text ∈ requests) ∨ Offends operands rest

/-- **Arguments can be passed over** up to their end, a request or an error. -/
theorem exists_passes (arguments : List Text) {before : List Text} (fine : surplus? before = none) :
    ∃ front operands rest, arguments = front ++ rest ∧ Passes front operands ∧
      surplus? (before ++ operands) = none ∧ Ends (before ++ operands) rest := by
  have stop : ∀ {rest}, Ends before rest → ∃ front operands rest', rest = front ++ rest' ∧
      Passes front operands ∧ surplus? (before ++ operands) = none ∧
        Ends (before ++ operands) rest' := by
    intro rest ends
    refine ⟨[], [], rest, rfl, .nil, ?_⟩
    rw [List.append_nil]
    exact ⟨fine, ends⟩
  match arguments with
  | [] => exact stop (.inl rfl)
  | text :: rest =>
    rcases argument_cases text with flag | value | request | named | ⟨dash, more, unknown⟩
    · obtain ⟨front, operands, rest', rfl, passes, ends⟩ := exists_passes rest fine
      exact ⟨text :: front, operands, rest', rfl, .flag flag passes, ends⟩
    · cases rest with
      | nil => exact stop (.inr (.inr (.valueless value)))
      | cons given rest =>
        obtain ⟨front, operands, rest', rfl, passes, ends⟩ := exists_passes rest fine
        exact ⟨text :: given :: front, operands, rest', rfl, .value value passes, ends⟩
    · exact stop (.inr (.inl ⟨text, rest, rfl, request⟩))
    · rcases surplus?_concat fine text with ⟨still, -⟩ | ⟨taken, more, -⟩
      · obtain ⟨front, operands, rest', rfl, passes, ends⟩ := exists_passes rest still
        rw [List.append_assoc, List.singleton_append] at ends
        exact ⟨text :: front, text :: operands, rest', rfl, .operand named passes, ends⟩
      · exact stop (.inr (.inr (.surplus (named.resolve_left more) taken)))
    · exact stop (.inr (.inr (.unknown dash more unknown)))

/-! ## Refusals and readings -/

theorem readFrom_offends (offends : Offends operands rest) (file : options.file = operands.getLast?) :
    ∃ error, readFrom options rest = .error error := by
  cases offends with
  | unknown dash more unknown =>
    rw [readFrom.eq_def]
    simp only [ofText_unknown dash more unknown]
    exact ⟨_, rfl⟩
  | valueless value => exact ⟨_, readFrom_valueless value options⟩
  | surplus plain some =>
    have taken : options.file ≠ none := by
      rw [file]
      exact fun none => some (List.getLast?_eq_none_iff.mp none)
    exact ⟨_, readFrom_surplus plain taken _⟩

theorem read_passes (passes : Passes front operands) :
    (∀ text, surplus? operands = some text →
      ∀ rest, read (front ++ rest) = .error (.unexpectedArgument text)) ∧
    (surplus? operands = none → ∃ later : Options, later.file = operands.getLast? ∧
      ∀ rest, read (front ++ rest) = readFrom later rest) := by
  have fine : surplus? [] = none := rfl
  have file : ({} : Options).file = ([] : List Text).getLast? := rfl
  exact readFrom_passes passes fine file

/-- Every list of arguments is read up to its end, a request or an error. -/
theorem read_cases (arguments : List Text) :
    ∃ front operands rest, ∃ later : Options, arguments = front ++ rest ∧ Passes front operands ∧
      surplus? operands = none ∧ Ends operands rest ∧ later.file = operands.getLast? ∧
      read arguments = readFrom later rest := by
  have fine : surplus? [] = none := rfl
  obtain ⟨front, operands, rest, rfl, passes, more, ends⟩ := exists_passes arguments fine
  obtain ⟨later, file, read⟩ := (read_passes passes).2 more
  exact ⟨front, operands, rest, later, rfl, passes, more, ends, file, read rest⟩

/-- **Arguments are refused** if and only if there is an error in them before any request. -/
theorem refused_iff : (∃ error, read arguments = .error error) ↔ Refused arguments := by
  constructor
  · rintro ⟨error, refused⟩
    obtain ⟨front, operands, rest, later, rfl, passes, -, ends, -, same⟩ := read_cases arguments
    rw [same] at refused
    rcases ends with rfl | ⟨text, behind, rfl, request⟩ | offends
    · cases refused
    · obtain ⟨answer, answered, -⟩ := readFrom_request request later behind
      rw [answered] at refused
      cases refused
    · exact ⟨front, operands, rest, rfl, passes, offends⟩
  · rintro ⟨front, operands, rest, rfl, passes, offends⟩
    obtain ⟨surplus, fine⟩ := read_passes passes
    cases more : surplus? operands with
    | some text => exact ⟨_, surplus text more rest⟩
    | none =>
      obtain ⟨later, file, read⟩ := fine more
      rw [read rest]
      exact readFrom_offends offends file

/-- **Arguments ask for highlighting** if and only if all of them can be passed over and no operand
is one too many; the last operand is the file. -/
theorem read_highlight_iff {file : Option Text} :
    (∃ options, read arguments = .ok (.highlight options) ∧ options.file = file) ↔
      ∃ operands, Passes arguments operands ∧ surplus? operands = none ∧
        operands.getLast? = file := by
  constructor
  · rintro ⟨options, asked, rfl⟩
    obtain ⟨front, operands, rest, later, rfl, passes, more, ends, file, same⟩ :=
      read_cases arguments
    rw [same] at asked
    rcases ends with rfl | ⟨text, behind, rfl, request⟩ | offends
    · cases asked
      rw [List.append_nil]
      exact ⟨operands, passes, more, file.symm⟩
    · obtain ⟨answer, answered, other⟩ := readFrom_request request later behind
      rw [answered] at asked
      exact absurd (Except.ok.inj asked) (other options)
    · obtain ⟨error, refused⟩ := readFrom_offends offends file
      rw [refused] at asked
      cases asked
  · rintro ⟨operands, passes, more, rfl⟩
    obtain ⟨later, file, read⟩ := (read_passes passes).2 more
    have whole := read []
    rw [List.append_nil] at whole
    exact ⟨later, whole, file⟩

end Highlight.CommandLine
