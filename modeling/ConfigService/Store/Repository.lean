import ConfigService.Config.Document
import ConfigService.Config.Error
/-!
# Repository — where the configuration is kept

The repository holds the configuration as a document, a JSON text with sorted keys, and holds none until one has been
saved.  Loading reads the document and saving replaces it.  Either may be made to fail, and then it fails with the given
reason and changes nothing.  Every call is counted, also one that fails.
-/
namespace ConfigService

structure Repository where
  document : Option String
  /-- Why loading fails, if it does. -/
  loadFault : Option String
  /-- Why saving fails, if it does. -/
  saveFault : Option String
  loads : Nat
  saves : Nat

namespace Repository

/-- The repository in which nothing has been saved. -/
def empty : Repository := ⟨none, none, none, 0, 0⟩

/-- The document of a configuration. -/
def documentOf (c : Config) : Except StorageError String :=
  match c.encode true with
  | .ok s => .ok s
  | .error e => .error (.ofEncode e)

/-- The configuration that a document holds. -/
def ofDocument (document : String) : Except StorageError Config :=
  let t := Text.ofString document
  match Config.read t with
  | .ok c => .ok c
  | .error f => .error (.encoding (f.message t))

/-- A repository that holds a configuration from the start. -/
def ofConfig (c : Config) : Except StorageError Repository :=
  (documentOf c).map fun d => { empty with document := some d }

/-- What loading answers: the configuration, if one has been saved. -/
def stored (r : Repository) : Except StorageError (Option Config) :=
  match r.loadFault with
  | some reason => .error (.encoding reason)
  | none =>
    match r.document with
    | none => .ok none
    | some d => (ofDocument d).map some

def load (r : Repository) : Except StorageError (Option Config) × Repository :=
  (r.stored, { r with loads := r.loads + 1 })

def save (c : Config) (r : Repository) : Except StorageError Unit × Repository :=
  let r := { r with saves := r.saves + 1 }
  match r.saveFault with
  | some reason => (.error (.encoding reason), r)
  | none =>
    match documentOf c with
    | .ok d => (.ok (), { r with document := some d })
    | .error e => (.error e, r)

end Repository

end ConfigService
