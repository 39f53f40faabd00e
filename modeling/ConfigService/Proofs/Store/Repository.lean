import ConfigService.Proofs.Config.Update
import ConfigService.Proofs.Store.Access
/-!
# Repository — what comes back is what was kept

The repository keeps a configuration as a text and reads it anew at every loading.  One step, a loading or a saving, takes
a repository that holds a configuration to one that holds the configuration saved last (`Repository.Holds.perform`), and so
does any number of steps (`Repository.Holds.run`).
-/
namespace ConfigService

namespace Repository

/-- What can be done to a repository. -/
inductive Operation
  | load
  | save (c : Config)

/-- The repository after an operation. -/
def perform (r : Repository) : Operation → Repository
  | .load => r.load.2
  | .save c => (r.save c).2

/-- The repository after operations, one after another. -/
def run (r : Repository) (ops : List Operation) : Repository := ops.foldl perform r

/-- The configuration that is kept after an operation, with what was kept before it. -/
def keep (stored : Option Config) : Operation → Option Config
  | .load => stored
  | .save c => some c

/-- The configuration that was saved last. -/
def lastSaved (stored : Option Config) (ops : List Operation) : Option Config := ops.foldl keep stored

variable {r : Repository} {stored : Option Config}

/-- **One operation** leaves the repository with the configuration that was saved last. -/
theorem Holds.perform (h : r.Holds stored) (op : Operation) : (r.perform op).Holds (keep stored op) := by
  cases op with
  | load => exact h.load.2
  | save c => exact (h.save c).2

/-- **Any number of operations** leaves the repository with the configuration that was saved last. -/
theorem Holds.run (ops : List Operation) :
    ∀ {r : Repository} {stored : Option Config}, r.Holds stored → (r.run ops).Holds (lastSaved stored ops) := by
  induction ops with
  | nil => exact fun h => h
  | cons op ops ih => exact fun h => ih (h.perform op)

/-- **What is stored comes back.**  A configuration is read back from its text, whatever its values are and with its keys
sorted or not.  So a repository, opened with a configuration or without one and used in any way since, loads what was saved
last, and what is saved next is what is loaded then.  An update is read back from its text as well, which says `null` for
what the update leaves out. -/
theorem stored_comes_back :
    (∀ (sortKeys : Bool) (c : Config), ∃ s, c.encode sortKeys = .ok s ∧ Config.read (Text.ofString s) = .ok c) ∧
    (∀ stored : Option Config, ∃ r, opened stored = .ok r ∧ ∀ ops : List Operation,
      (r.run ops).load.1 = .ok (lastSaved stored ops) ∧
        ∀ c, ((r.run ops).save c).1 = .ok () ∧ ((r.run ops).save c).2.load.1 = .ok (some c)) ∧
    ∀ (sortKeys : Bool) (u : Update), ∃ s, u.encode sortKeys = .ok s ∧ Update.read (Text.ofString s) = .ok u ∧
      ∃ ms, Json.Value.read (Text.ofString s) = .ok (.object ms) ∧
        ∀ f : Field, Json.findMember? f.name ms = some .null ↔ u.value f = none := by
  refine ⟨fun sortKeys c => ?_, fun stored => ?_, fun sortKeys u => ?_⟩
  · exact ⟨c.text sortKeys, c.encode_eq sortKeys, c.read_text sortKeys⟩
  · obtain ⟨r, hopened, hr⟩ := exists_opened stored
    refine ⟨r, hopened, fun ops => ?_⟩
    have hrun := hr.run ops
    refine ⟨hrun.load.1, fun c => ?_⟩
    obtain ⟨hsaved, hafter⟩ := hrun.save c
    exact ⟨hsaved, hafter.load.1⟩
  · exact ⟨u.text sortKeys, u.encode_eq sortKeys, u.read_text sortKeys, u.exists_read_members sortKeys⟩

end Repository

end ConfigService
