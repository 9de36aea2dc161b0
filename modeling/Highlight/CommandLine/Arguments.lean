import Highlight.Text.Basic

/-!
# Arguments

What the arguments of the command ask for. They are read from the left, and the first request for
help, version or languages, or the first error, decides.
-/

namespace Highlight.CommandLine

/-- Why arguments are refused. -/
inductive UsageError where
  | unknownOption (option : Text)
  | unexpectedArgument (argument : Text)
  | missingValue (option : Text)
  deriving DecidableEq, Repr

/-- The error in words. -/
def UsageError.message : UsageError → Text
  | unknownOption option => "unknown option '".toList ++ option ++ "'".toList
  | unexpectedArgument argument => "unexpected argument '".toList ++ argument ++ "'".toList
  | missingValue option => "option '".toList ++ option ++ "' needs a value".toList

/-- How code is to be highlighted. -/
structure Options where
  language : Option Text := none
  id : Option Text := none
  /-- The path of the code, `-` for standard input. -/
  file : Option Text := none
  block : Bool := false
  terminal : Bool := false
  noCache : Bool := false
  deriving DecidableEq, Repr

/-- What is asked for. -/
inductive Request where
  | help
  | version
  | languages
  | highlight (options : Options)
  deriving DecidableEq, Repr

/-- The standard input as a file. -/
def standardInput : Text := "-"

/-- An argument by itself. -/
inductive Argument where
  | help
  | version
  | languages
  | language
  | id
  | block
  | terminal
  | noCache
  | input
  | unknown
  | file
  deriving DecidableEq, Repr

/-- The spellings of arguments. -/
def spellings : List (Text × Argument) :=
  [("--help".toList, .help), ("-h".toList, .help),
   ("--version".toList, .version), ("-V".toList, .version),
   ("--list".toList, .languages),
   ("--lang".toList, .language), ("-l".toList, .language),
   ("--id".toList, .id), ("-i".toList, .id),
   ("--block".toList, .block), ("-b".toList, .block),
   ("--terminal".toList, .terminal), ("-t".toList, .terminal),
   ("--no-cache".toList, .noCache),
   (standardInput, .input)]

/-- What an argument is. Whatever else starts with a dash is an option that is not known. -/
def Argument.ofText (text : Text) : Argument :=
  (spellings.lookup text).getD (if text.head? = some '-' then .unknown else .file)

/-- Read arguments on top of what is known already. A dash takes the place of any file before it;
a second file is refused. -/
def readFrom (options : Options) : List Text → Except UsageError Request
  | [] => .ok (.highlight options)
  | text :: rest =>
    match Argument.ofText text with
    | .help => .ok .help
    | .version => .ok .version
    | .languages => .ok .languages
    | .language =>
      match rest with
      | [] => .error (.missingValue text)
      | value :: rest => readFrom { options with language := some value } rest
    | .id =>
      match rest with
      | [] => .error (.missingValue text)
      | value :: rest => readFrom { options with id := some value } rest
    | .block => readFrom { options with block := true } rest
    | .terminal => readFrom { options with terminal := true } rest
    | .noCache => readFrom { options with noCache := true } rest
    | .input => readFrom { options with file := some text } rest
    | .unknown => .error (.unknownOption text)
    | .file =>
      if options.file.isSome then .error (.unexpectedArgument text)
      else readFrom { options with file := some text } rest

/-- Read arguments. -/
def read (arguments : List Text) : Except UsageError Request := readFrom {} arguments

end Highlight.CommandLine
