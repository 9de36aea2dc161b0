import Highlight.Cache.Basic
import Highlight.Files.Disk
import Highlight.Files.Path
import Highlight.Text.Decimal

/-!
# File caches

Markup kept in a folder, one file per key. The first line of a file is the second at which it stops
being valid, the rest is the markup. That second is the sum of the clock's and the lifetime's: what
either has beyond whole seconds does not count. A file is written under a name of its own and then
renamed, so no reader ever sees half an entry. The folder is made when something is first stored.

Keys become names of files, so only letters, digits and underscores are keys.
-/

namespace Highlight

/-- A cache in a folder. -/
structure FileCache (m : Type → Type) where
  disk : Disk m
  /-- The nanoseconds since the epoch. -/
  clock : m Nat
  folder : Text

namespace FileCache

/-- Whether a text is a key. -/
def isKey (text : Text) : Bool :=
  !text.isEmpty && text.all fun c => c.isAlphanum || c == '_'

/-- The name of a key's file. -/
def entryName (key : Text) : Text := key ++ ".html".toList

/-- The name under which a key's file is written. -/
def temporaryName (key stamp : Text) : Text :=
  key ++ '.' :: stamp ++ ".tmp".toList

/-- The content of an entry. -/
def encode (expiry : Nat) (markup : Text) : Text := Text.ofNumeral expiry ++ '\n' :: markup

/-- The expiry and the markup of an entry's content, which is at `path`. -/
def decode (path content : Text) : Except CacheError (Nat × Text) :=
  match content.splitOnce? '\n' with
  | none => .error (.malformedEntry path)
  | some (header, markup) =>
    match header.trim.toNumeral? with
    | none => .error (.badExpiry path)
    | some expiry => .ok (expiry, markup)

/-- The last second that an entry can name. -/
def lastSecond : Nat := Text.numeralBound - 1

/-- The path of a key's file. -/
def entryPath (cache : FileCache m) (key : Text) : Except CacheError Text :=
  if isKey key then .ok (Path.child cache.folder (entryName key)) else .error (.invalidKey key)

/-- The markup under a key. An entry past its time is removed; whether that succeeds does not
matter, since the entry is as good as absent. -/
def get [Monad m] (cache : FileCache m) (key : Text) : m (Except CacheError (Option Text)) := do
  match cache.entryPath key with
  | .error error => pure (.error error)
  | .ok path =>
    match ← cache.disk.readText path with
    | .error .noEntry => pure (.ok none)
    | .error failure => pure (.error (.failure failure))
    | .ok content =>
      match decode path content with
      | .error error => pure (.error error)
      | .ok (expiry, markup) =>
        if expiry ≤ secondOf (← cache.clock) then
          let _ ← cache.disk.remove path
          pure (.ok none)
        else pure (.ok (some markup))

/-- Write a file under another name first. What was written is removed if writing breaks off, or if
it cannot take its place. -/
def replace [Monad m] (disk : Disk m) (temporary path content : Text) :
    m (Except Failure Unit) := do
  let written ← disk.write temporary content.toUtf8
  let moved ← match written with
    | .ok () => disk.rename temporary path
    | .error failure => pure (.error failure)
  match moved with
  | .ok () => pure (.ok ())
  | .error failure =>
    let _ ← disk.remove temporary
    pure (.error failure)

/-- Store markup under a key. -/
def set [Monad m] (cache : FileCache m) (key markup : Text) (lifetime : Duration) :
    m (Except CacheError Unit) := do
  match cache.entryPath key with
  | .error error => pure (.error error)
  | .ok path =>
    match ← cache.disk.makeFolders cache.folder with
    | .error failure => pure (.error (.failure failure))
    | .ok () =>
      let expiry := min (secondOf (← cache.clock) + lifetime.seconds) lastSecond
      let temporary := Path.child cache.folder (temporaryName key (← cache.disk.stamp))
      let stored ← replace cache.disk temporary path (encode expiry markup)
      pure (stored.mapError .failure)

/-- A cache in a folder as a render cache. -/
def renderCache [Monad m] (cache : FileCache m) : RenderCache m where
  get := cache.get
  set := cache.set

end FileCache

end Highlight
