import Highlight.Cache.File
import Highlight.CommandLine.Arguments
import Highlight.Config
import Highlight.Highlighter
import Highlight.Host
import Highlight.Terminal

/-!
# Running the command

A run reads its arguments, the settings and the code, in this order, and writes markup or a preview.
Nothing is written before everything has been read, so a run that fails has written nothing.
-/

namespace Highlight.CommandLine

/-- What a run leaves for its caller. -/
structure Outcome where
  code : Nat
  output : Text
  /-- What goes to standard error. -/
  error : Option Text
  deriving DecidableEq, Repr

/-- The outcome of a run that succeeds. -/
def Outcome.success (output : Text) : Outcome := ⟨0, output, none⟩

/-- The outcome of a run that fails. -/
def Outcome.failure (message : Text) : Outcome :=
  ⟨1, [], some ("Error: ".toList ++ message ++ ['\n'])⟩

/-- A text with blanks after it up to a width. -/
def padded (width : Nat) (text : Text) : Text :=
  text ++ List.replicate (width - text.length) ' '

/-- A line on a language: its name, its label and its aliases. -/
def languageLine (grammar : Grammar) : Text :=
  let aliases := grammar.aliases.filter (!·.isEmpty)
  padded 12 grammar.name ++ ' ' :: grammar.label ++
    (if aliases.isEmpty then [] else " (".toList ++ Text.join ", " aliases ++ ")".toList) ++ ['\n']

/-- The languages that can be asked for. -/
def languagesText (registry : Registry) : Text :=
  registry.names.flatMap fun name => languageLine (registry.resolve name)

/-- Lines of text. -/
def lines (parts : List Text) : Text := parts.flatMap (· ++ ['\n'])

/-- What the program is and how it is called. -/
def helpText : Text :=
  lines [
    "fmc ".toList ++ engineVersion ++ " - render source code as highlighted HTML".toList,
    "",
    "Usage: fmc [OPTIONS] [FILE]",
    "",
    "Reads FILE, or standard input when FILE is absent or '-'.",
    "",
    "Options:",
    "  -l, --lang LANG  Language of the code (default from ~/.fmc.conf)",
    "  -i, --id ID      Id for the copy button (with --block)",
    "  -b, --block      Wrap the markup in the full code block",
    "  -t, --terminal   Preview with terminal colors instead of HTML",
    "      --no-cache   Do not read or write the render cache",
    "      --list       List supported languages",
    "  -h, --help       Show this help message",
    "  -V, --version    Show version information",
    "",
    "Set RUST_LOG=debug to see cache and language resolution logs."]

/-- What the program is called and which version it has. -/
def versionText : Text :=
  lines ["fmc ".toList ++ engineVersion, "Mini Codeblock syntax highlighter"]

/-- The code to highlight. -/
def readCode [Monad m] (host : Host m) (options : Options) : m (Except Failure Text) := do
  let fromInput := do
    match ← host.input with
    | .error failure => pure (.error failure)
    | .ok content => pure ((Text.ofUtf8? content).elim (.error .notUtf8) .ok)
  match options.file with
  | none => fromInput
  | some file => if file = standardInput then fromInput else host.disk.readText file

/-- The cache that a run uses, if any. -/
def shelf? [Monad m] (host : Host m) (config : Config) (options : Options) : Option (Shelf m) :=
  if config.cache && !options.noCache then
    config.cacheFolder.map fun folder =>
      ⟨FileCache.renderCache { disk := host.disk, clock := host.clock, folder },
        .ofSeconds config.lifetime⟩
  else none

/-- What is written for some code: a preview, which ends in a line break, or markup and a line
break. -/
def present [Monad m] (host : Host m) (config : Config) (options : Options) (code : Text) :
    m Text := do
  let highlighter : Highlighter := { classPrefix := config.classPrefix }
  let language := options.language.getD config.language
  if options.terminal then
    let preview := Terminal.preview (highlighter.tokenize code language)
    pure (if code.getLast? = some '\n' then preview else preview ++ ['\n'])
  else
    let shelf := shelf? host config options
    let markup ← if options.block then
        highlighter.block shelf { code, language := some language, id := options.id }
      else highlighter.highlight shelf code language
    pure (markup ++ ['\n'])

/-- Highlight code. -/
def highlight [Monad m] (host : Host m) (options : Options) : m Outcome := do
  let config ← Config.load host.disk (← host.environment)
  match ← readCode host options with
  | .error failure => pure (.failure failure.message)
  | .ok code => return .success (← present host config options code)

/-- Run the command with some arguments. -/
def run [Monad m] (host : Host m) (arguments : List Text) : m Outcome :=
  match read arguments with
  | .error error => pure (.failure error.message)
  | .ok .help => pure (.success helpText)
  | .ok .version => pure (.success versionText)
  | .ok .languages => pure (.success (languagesText .builtin))
  | .ok (.highlight options) => highlight host options

end Highlight.CommandLine
