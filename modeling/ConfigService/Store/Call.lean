import ConfigService.Store.Access
/-!
# Call — reading and changing the configuration in steps

A call does not run in one go: other calls move between its steps, and the cache may lose its copy meanwhile.
`Call.step?` makes the next step of a call.  There is none while the call waits for a lock that another call holds, and
none after it has answered.  A call that moves alone does what `Shared.get` and `Shared.update` say (`runAlone_get`,
`runAlone_update`), so these two are one and the same operation seen from outside and from within.
-/
namespace ConfigService

inductive Task
  | get
  | update (u : Update) (now : Timestamp)

/-- What a call does next. -/
inductive Phase
  /-- It looks into the cache, without the lock. -/
  | look
  | enter
  /-- It looks into the cache again, with the lock. -/
  | lookAgain
  | load
  | save (c : Config)
  | fill (c : Config)
  /-- It gives the lock back. -/
  | leave (answer : Except StorageError Config)
  /-- Nothing: it has answered. -/
  | done (answer : Except StorageError Config)

/-- A call: what it is for and where it stands. -/
structure Call where
  task : Task
  phase : Phase

namespace Task

/-- Where a call begins: only a reader may find what it needs without the lock. -/
def first : Task → Phase
  | get => .look
  | update _ _ => .enter

/-- What a call does once it has the lock. -/
def afterEnter : Task → Phase
  | get => .lookAgain
  | update _ _ => .load

/-- What a call does with the configuration it has loaded. -/
def afterLoad (c : Config) : Task → Phase
  | get => .fill c
  | update u now => .save (c.apply u now)

def start (t : Task) : Call := ⟨t, t.first⟩

end Task

namespace Call

/-- The next step of a call, on what it shares with other calls. -/
def step? (task : Task) : Phase → Shared → Option (Phase × Shared)
  | .look, s =>
    match s.cache with
    | some c => some (.done (.ok c), s)
    | none => some (.enter, s)
  | .enter, s => if s.locked then none else some (task.afterEnter, { s with locked := true })
  | .lookAgain, s =>
    match s.cache with
    | some c => some (.leave (.ok c), s)
    | none => some (.load, s)
  | .load, s =>
    match s.load with
    | (.ok c, s) => some (task.afterLoad c, s)
    | (.error e, s) => some (.leave (.error e), s)
  | .save c, s =>
    match s.save c with
    | (.ok (), s) => some (.fill c, s)
    | (.error e, s) => some (.leave (.error e), s)
  | .fill c, s => some (.leave (.ok c), s.fill c)
  | .leave answer, s => some (.done answer, { s with locked := false })
  | .done _, _ => none

/-- Makes up to `steps` steps of a call while no other call moves. -/
def runAlone (task : Task) : (steps : Nat) → Phase → Shared → Phase × Shared
  | 0, phase, s => (phase, s)
  | steps + 1, phase, s =>
    match step? task phase s with
    | some (phase, s) => runAlone task steps phase s
    | none => (phase, s)

/-! ## A call that moves alone -/

/-- **A reader alone** answers and leaves behind what `Shared.get` says. -/
theorem runAlone_get (s : Shared) (h : s.locked = false) :
    runAlone .get 6 .look s = (.done s.get.1, s.get.2) := by
  obtain ⟨initial, repository, cache, locked⟩ := s
  simp only at h
  subst h
  cases cache with
  | some c => rfl
  | none =>
    cases hl : repository.stored with
    | error e =>
      simp [runAlone, step?, Task.afterEnter, Shared.get, Shared.load, Repository.load, hl, Except.map]
    | ok c =>
      simp [runAlone, step?, Task.afterEnter, Task.afterLoad, Shared.get, Shared.load, Shared.fill, Repository.load, hl,
        Except.map]

/-- **A writer alone** answers and leaves behind what `Shared.update` says. -/
theorem runAlone_update (u : Update) (now : Timestamp) (s : Shared) (h : s.locked = false) :
    runAlone (.update u now) 5 .enter s = (.done (s.update u now).1, (s.update u now).2) := by
  obtain ⟨initial, repository, cache, locked⟩ := s
  simp only at h
  subst h
  cases hl : repository.stored with
  | error e =>
    simp [runAlone, step?, Task.afterEnter, Shared.update, Shared.load, Repository.load, hl, Except.map]
  | ok c =>
    cases hs : ({ repository with loads := repository.loads + 1 } : Repository).save ((c.getD initial).apply u now) with
    | mk answer repository' =>
      cases answer with
      | error e =>
        simp [runAlone, step?, Task.afterEnter, Task.afterLoad, Shared.update, Shared.load, Shared.save,
          Repository.load, hl, hs, Except.map]
      | ok =>
        simp [runAlone, step?, Task.afterEnter, Task.afterLoad, Shared.update, Shared.load, Shared.save, Shared.fill,
          Repository.load, hl, hs, Except.map]

end Call

end ConfigService
