import Highlight.Cache.Basic

/-!
# Memory caches

Markup kept in memory, by a clock that counts nanoseconds. An entry that is past its time is dropped
when it is looked up, and all such entries are dropped before anything is stored. A lifetime beyond
what a clock can count never ends.
-/

namespace Highlight

/-- Stored markup. -/
structure MemoryCache.Entry where
  markup : Text
  /-- The first time at which the entry is no longer valid, if there is one. -/
  expiry : Option Nat
  deriving DecidableEq, Repr

/-- Whether an entry is valid. -/
def MemoryCache.Entry.isLive (entry : Entry) (now : Nat) : Bool := entry.expiry.all (now < ·)

/-- A cache in memory. Each key is there at most once. -/
structure MemoryCache where
  entries : List (Text × MemoryCache.Entry) := []
  deriving DecidableEq, Repr

namespace MemoryCache

/-- The least time in nanoseconds that a clock cannot count: it counts seconds in 63 bits. -/
def clockBound : Nat := Nat.pow 2 63 * nanosPerSecond

/-- The number of entries, also of those past their time. -/
def size (cache : MemoryCache) : Nat := cache.entries.length

/-- Whether there are no entries. -/
def isEmpty (cache : MemoryCache) : Bool := cache.entries.isEmpty

/-- The cache without a key. -/
def erase (cache : MemoryCache) (key : Text) : MemoryCache :=
  ⟨cache.entries.filter fun entry => entry.1 != key⟩

/-- The cache without entries past their time. -/
def sweep (cache : MemoryCache) (now : Nat) : MemoryCache :=
  ⟨cache.entries.filter fun entry => entry.2.isLive now⟩

/-- The markup under a key, and the cache after the lookup. -/
def get (cache : MemoryCache) (now : Nat) (key : Text) : Option Text × MemoryCache :=
  match cache.entries.lookup key with
  | none => (none, cache)
  | some entry => if entry.isLive now then (some entry.markup, cache) else (none, cache.erase key)

/-- The end of a lifetime, if a clock can count so far. -/
def expiryOf (now : Nat) (lifetime : Duration) : Option Nat :=
  let stop := now + lifetime.nanoseconds
  if stop < clockBound then some stop else none

/-- The cache after storing markup. -/
def set (cache : MemoryCache) (now : Nat) (key markup : Text) (lifetime : Duration) :
    MemoryCache :=
  let swept := cache.sweep now
  ⟨(key, ⟨markup, expiryOf now lifetime⟩) :: (swept.erase key).entries⟩

/-- The memory cache that a state holds, as a render cache. -/
def renderCache [Monad m] [MonadStateOf MemoryCache m] (clock : m Nat) : RenderCache m where
  get key := do
    let now ← clock
    let (markup, cache) := (← getThe MemoryCache).get now key
    MonadStateOf.set cache
    pure (.ok markup)
  set key markup lifetime := do
    let now ← clock
    modifyThe MemoryCache fun cache => cache.set now key markup lifetime
    pure (.ok ())

end MemoryCache

end Highlight
