import ConfigService.Store.Repository
/-!
# Access — reading and changing the configuration

The configuration in force is the one in the repository or, while there is none, that of the settings.  A copy is held in
a cache, which may lose it at any time.  Two operations share the repository and the cache, and a lock keeps them apart:

* `get` answers with the cached copy.  Without one it takes the lock, looks again — another call may have filled the
  cache meanwhile — and only then loads the configuration and caches it.
* `update` takes the lock, loads, applies the update, saves and caches the result.

A failure of the repository ends an operation where it happens: nothing is cached and the lock is given back.
-/
namespace ConfigService

/-- What the operations share. -/
structure Shared where
  /-- The configuration in force until one has been saved. -/
  initial : Config
  repository : Repository
  cache : Option Config
  locked : Bool

namespace Shared

def load (s : Shared) : Except StorageError Config × Shared :=
  let (answer, repository) := s.repository.load
  (answer.map fun c => c.getD s.initial, { s with repository })

def save (c : Config) (s : Shared) : Except StorageError Unit × Shared :=
  let (answer, repository) := s.repository.save c
  (answer, { s with repository })

def fill (c : Config) (s : Shared) : Shared := { s with cache := some c }

/-- Loses the cached copy. -/
def forget (s : Shared) : Shared := { s with cache := none }

/-- Reads the configuration, alone. -/
def get (s : Shared) : Except StorageError Config × Shared :=
  match s.cache with
  | some c => (.ok c, s)
  | none =>
    match s.load with
    | (.ok c, s) => (.ok c, s.fill c)
    | (.error e, s) => (.error e, s)

/-- Changes the configuration at a time, alone. -/
def update (u : Update) (now : Timestamp) (s : Shared) : Except StorageError Config × Shared :=
  match s.load with
  | (.error e, s) => (.error e, s)
  | (.ok c, s) =>
    let c := c.apply u now
    match s.save c with
    | (.error e, s) => (.error e, s)
    | (.ok (), s) => (.ok c, s.fill c)

end Shared

end ConfigService
