import Highlight.Duration
import Highlight.Files.Failure

/-!
# Render caches

A store of markup under keys, over any monad. A cache may forget and may fail at any call; what it
must not do is to answer with markup that was not stored under the key.
-/

namespace Highlight

/-- Why a cache could not answer or store. -/
inductive CacheError where
  | invalidKey (key : Text)
  | malformedEntry (path : Text)
  | badExpiry (path : Text)
  | failure (cause : Failure)
  | other (wording : Text)
  deriving DecidableEq, Repr

namespace CacheError

/-- What goes before the wording of an error of the cache itself. -/
def heading : Text := "Cache error: "

/-- The error in words. -/
def message : CacheError → Text
  | invalidKey key => heading ++ "invalid cache key '".toList ++ key ++ "'".toList
  | malformedEntry path => heading ++ "malformed cache entry ".toList ++ path
  | badExpiry path => heading ++ "bad expiry in cache entry ".toList ++ path
  | failure cause => cause.message
  | other wording => heading ++ wording

end CacheError

/-- A store of markup. -/
structure RenderCache (m : Type → Type) where
  /-- The markup under a key, if there is any that is still valid. -/
  get : Text → m (Except CacheError (Option Text))
  /-- Store markup under a key for some time. -/
  set : Text → Text → Duration → m (Except CacheError Unit)

namespace Cache

/-- For how many seconds markup stays valid if nothing else is said: for a week. -/
def week : Nat := 7 * 24 * 60 * 60

end Cache

end Highlight
