import ConfigService.Store.Call
/-!
# Storage — any place that keeps a configuration

The calls need not know where the configuration is kept.  A storage is any place that can be loaded from and saved to.
Either may fail at any time and for any reason; it must only be that a failure leaves what is kept as it was, and that a
loading that succeeds gives what was saved last.  The steps of a call are those of `Call.step?`.
-/
namespace ConfigService

structure Storage (ρ : Type) where
  load : ρ → Except StorageError (Option Config) × ρ
  save : Config → ρ → Except StorageError Unit × ρ
  /-- The configuration that was saved last. -/
  kept : ρ → Option Config
  load_ok : ∀ r c, (load r).1 = .ok c → c = kept r
  kept_load : ∀ r, kept (load r).2 = kept r
  save_ok : ∀ c r, (save c r).1 = .ok () → kept (save c r).2 = some c
  save_error : ∀ c r e, (save c r).1 = .error e → kept (save c r).2 = kept r

/-- The call has ended, and how. -/
abbrev Ended := Task × Phase

/-- A configuration after a call has ended: only an update that was answered with success has been made. -/
def Config.afterCall (c : Config) : Ended → Config
  | (.update u now, .done (.ok _)) => c.apply u now
  | _ => c

namespace Storage

/-- What calls share, over some storage. -/
structure State (ρ : Type) where
  initial : Config
  place : ρ
  cache : Option Config
  locked : Bool

namespace State

variable {ρ : Type}

/-- Nothing is cached yet, and the lock is free. -/
def start (initial : Config) (place : ρ) : State ρ := ⟨initial, place, none, false⟩

end State

variable {ρ : Type} (S : Storage ρ)

/-- The configuration in force: what is kept or, while nothing is, that of the settings. -/
def inForce (s : State ρ) : Config := (S.kept s.place).getD s.initial

/-- The next step of a call. -/
def step? (task : Task) : Phase → State ρ → Option (Phase × State ρ)
  | .look, s =>
    match s.cache with
    | some c => some (.done (.ok c), s)
    | none => some (.enter, s)
  | .enter, s => if s.locked then none else some (task.afterEnter, { s with locked := true })
  | .lookAgain, s =>
    match s.cache with
    | some c => some (.leave (.ok c), s)
    | none => some (.load, s)
  | .load, s =>
    match S.load s.place with
    | (.ok c, place) => some (task.afterLoad (c.getD s.initial), { s with place })
    | (.error e, place) => some (.leave (.error e), { s with place })
  | .save c, s =>
    match S.save c s.place with
    | (.ok (), place) => some (.fill c, { s with place })
    | (.error e, place) => some (.leave (.error e), { s with place })
  | .fill c, s => some (.leave (.ok c), { s with cache := some c })
  | .leave answer, s => some (.done answer, { s with locked := false })
  | .done _, _ => none

/-- Why the storage fails in the next step of a call, if it does. -/
def failure? : Phase → State ρ → Option StorageError
  | .load, s =>
    match (S.load s.place).1 with
    | .ok _ => none
    | .error e => some e
  | .save c, s =>
    match (S.save c s.place).1 with
    | .ok () => none
    | .error e => some e
  | _, _ => none

/-- Makes up to `steps` steps of a call while no other call moves. -/
def runAlone (task : Task) : (steps : Nat) → Phase → State ρ → Phase × State ρ
  | 0, phase, s => (phase, s)
  | steps + 1, phase, s =>
    match S.step? task phase s with
    | some (phase, s) => runAlone task steps phase s
    | none => (phase, s)

/-- All failures of the storage in those steps. -/
def failuresIn (task : Task) : (steps : Nat) → Phase → State ρ → List StorageError
  | 0, _, _ => []
  | steps + 1, phase, s =>
    (S.failure? phase s).toList ++
      match S.step? task phase s with
      | some (phase, s) => failuresIn task steps phase s
      | none => []

/-- The steps of the longest call. -/
def longest : Nat := 6

/-- A call from its beginning to its end. -/
def call (task : Task) (s : State ρ) : Phase × State ρ := S.runAlone task longest task.first s

/-- All failures of the storage in a call. -/
def failures (task : Task) (s : State ρ) : List StorageError := S.failuresIn task longest task.first s

/-- Calls one after another: how each has ended, and the state after all of them. -/
def serve : List Task → State ρ → List Ended × State ρ
  | [], s => ([], s)
  | task :: tasks, s =>
    let (phase, s) := S.call task s
    let (ended, s) := serve tasks s
    ((task, phase) :: ended, s)

end Storage

/-- What calls share over a repository. -/
def Shared.state (s : Shared) : Storage.State Repository := ⟨s.initial, s.repository, s.cache, s.locked⟩

end ConfigService
