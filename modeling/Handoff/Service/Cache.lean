import Handoff.Document.Basic

/-!
Documents that are remembered for a time. What was asked for is remembered as a set of ids, so
neither their order nor repetitions matter.
-/
namespace Handoff.Service

/-- What a document was asked for: a file and ids in rising order. -/
structure CacheKey where
  fileKey : String
  ids : List String
  deriving DecidableEq

/-- Puts an id into its place among rising ids, unless it is there. -/
def insertId (id : String) : List String → List String
  | [] => [id]
  | first :: rest =>
    if id < first then id :: first :: rest
    else if id = first then first :: rest
    else first :: insertId id rest

def CacheKey.ofIds (fileKey : String) (ids : List String) : CacheKey :=
  ⟨fileKey, ids.foldr insertId []⟩

/-- A document with the time at which it was stored, in seconds. -/
structure Stored where
  key : CacheKey
  document : Document.File
  storedAt : Nat
  deriving DecidableEq

/-- Documents with at most one for each key. -/
abbrev Cache := List Stored

namespace Cache

def isFresh (timeToLive now : Nat) (stored : Stored) : Bool := now - stored.storedAt < timeToLive

/-- The document of a key, and the cache without it if it is no longer good. -/
def lookup (timeToLive now : Nat) (key : CacheKey) (cache : Cache) : Option Document.File × Cache :=
  match cache.find? (·.key = key) with
  | none => (none, cache)
  | some stored =>
    if isFresh timeToLive now stored then (some stored.document, cache)
    else (none, cache.filter (·.key ≠ key))

/-- Stores a document and forgets all that are no longer good. -/
def store (timeToLive now : Nat) (key : CacheKey) (document : Document.File) (cache : Cache) :
    Cache :=
  (cache.filter fun stored => isFresh timeToLive now stored && stored.key != key)
    ++ [⟨key, document, now⟩]

end Cache

end Handoff.Service
