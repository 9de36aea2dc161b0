import Highlight.Files.Disk
import Highlight.Highlighter
import Highlight.Text.Decimal

/-!
# Configuration

Settings are lines of the form `key = value` in a file of the user's home folder; a line that starts
with `#` is a comment. Of several lines with one key the last counts. A value that is not acceptable
leaves the setting as it is by default, and a file that cannot be read leaves all of them.
-/

namespace Highlight

/-- The folders that the user's environment names. -/
structure Environment where
  home : Option Text
  /-- The folder for the caches of all programs. -/
  cacheHome : Option Text
  deriving DecidableEq, Repr

/-- The settings. -/
structure Config where
  classPrefix : Text
  /-- The language of code that names none. -/
  language : Text
  /-- Whether renderings are kept. -/
  cache : Bool
  /-- For how many seconds renderings are kept. -/
  lifetime : Nat
  /-- Where renderings are kept. -/
  cacheFolder : Option Text
  deriving DecidableEq, Repr

namespace Config

/-- The shortest lifetime that can be set. -/
def leastLifetime : Nat := 60

/-- The folder for renderings if nothing else is said. -/
def defaultFolder (env : Environment) : Option Text :=
  match env.cacheHome with
  | some (c :: folder) => some (Path.child (c :: folder) "fmc")
  | _ => env.home.map fun home => Path.child (Path.child home ".cache") "fmc"

/-- The settings of an environment without a settings file. -/
def default (env : Environment) : Config where
  classPrefix := defaultPrefix
  language := defaultLanguage
  cache := true
  lifetime := Cache.week
  cacheFolder := defaultFolder env

/-- The path of the settings file. -/
def path? (env : Environment) : Option Text := env.home.map fun home => Path.child home ".fmc.conf"

/-- The setting on a line: its key in lowercase, and its value. -/
def binding? (line : Text) : Option (Text × Text) :=
  let line := line.trim
  if line.head? = some '#' then none
  else (line.splitOnce? '=').map fun (key, value) => (key.trim.lower, value.trim)

/-- The settings of a file, the last line first. -/
def bindings (content : Text) : List (Text × Text) :=
  ((content.splitOn '\n').filterMap binding?).reverse

/-- Whether a text may go before every class name: it ends up inside a quoted attribute. -/
def isClassPrefix (text : Text) : Bool :=
  text.all fun c => c.isAlphanum || c == '-' || c == '_'

/-- Whether a value turns a setting on. -/
def isOn (value : Text) : Bool :=
  ["true", "yes", "on", "1"].any fun word => word.toList = value.lower

/-- The last value of a key, if there is one and it is acceptable. -/
def value? (settings : List (Text × Text)) (key : Text) (read : Text → Option α) : Option α :=
  (settings.lookup key).bind read

/-- The value itself, unless there is none. -/
def nonEmpty (value : Text) : Option Text := if value.isEmpty then none else some value

/-- The settings with those of a file taken over. -/
def apply (config : Config) (settings : List (Text × Text)) : Config where
  classPrefix := (value? settings "class-prefix" fun value =>
    if isClassPrefix value then some value else none).getD config.classPrefix
  language := (value? settings "default-language" fun value =>
    (nonEmpty value).map Text.lower).getD config.language
  cache := (value? settings "cache" fun value => some (isOn value)).getD config.cache
  lifetime := (value? settings "cache-ttl" fun value =>
    value.toNumeral?.map (max leastLifetime)).getD config.lifetime
  cacheFolder := (value? settings "cache-dir" nonEmpty).or config.cacheFolder

/-- The settings that the text of a settings file gives. -/
def ofText (env : Environment) (content : Text) : Config := (default env).apply (bindings content)

/-- The settings of an environment. -/
def load [Monad m] (disk : Disk m) (env : Environment) : m Config := do
  match path? env with
  | none => pure (default env)
  | some path =>
    match ← disk.readText path with
    | .ok content => pure (ofText env content)
    | .error _ => pure (default env)

/-- Whether two configurations have the same effect: folders may be spelled differently. -/
def same (a b : Config) : Bool :=
  let folders := match a.cacheFolder, b.cacheFolder with
    | some a, some b => Path.same a b
    | none, none => true
    | _, _ => false
  folders && { a with cacheFolder := none } = { b with cacheFolder := none }

end Config

end Highlight
