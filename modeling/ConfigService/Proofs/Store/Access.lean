import ConfigService.Proofs.Config.Document
import ConfigService.Store.Access
/-!
# Access — the store keeps what it is given

A repository without faults answers with the configuration that was saved last, as it was (`Repository.Holds`), because
every configuration is read back from its document.  So there is always one configuration in force (`Shared.InForce`):
loading gives it and leaves it, saving puts another in its place.  The operations that run alone keep the cached copy to
it (`Shared.Coherent`).
-/
namespace ConfigService

namespace Repository

/-- A repository without faults, and the configuration that was saved last. -/
def Holds (r : Repository) (stored : Option Config) : Prop :=
  r.loadFault = none ∧ r.saveFault = none ∧ r.document = stored.map (Config.text true)

/-- A new repository, which may hold a configuration from the start. -/
def opened : Option Config → Except StorageError Repository
  | none => .ok empty
  | some c => ofConfig c

theorem documentOf_eq (c : Config) : documentOf c = .ok (c.text true) := by
  rw [documentOf, Config.encode_eq]

theorem ofDocument_text (c : Config) : ofDocument (c.text true) = .ok c := by
  rw [ofDocument]
  simp only [Config.read_text]

/-- **Opening a repository never fails**, and it holds what it was opened with. -/
theorem exists_opened (stored : Option Config) : ∃ r, opened stored = .ok r ∧ r.Holds stored := by
  cases stored with
  | none => exact ⟨empty, rfl, rfl, rfl, rfl⟩
  | some c =>
    refine ⟨{ empty with document := some (c.text true) }, ?_, rfl, rfl, rfl⟩
    rw [opened, ofConfig, documentOf_eq]
    rfl

variable {r : Repository} {stored : Option Config}

theorem Holds.stored_eq (h : r.Holds stored) : r.stored = .ok stored := by
  obtain ⟨hload, -, hdocument⟩ := h
  rw [Repository.stored, hload, hdocument]
  cases stored with
  | none => rfl
  | some c =>
    show (ofDocument (c.text true)).map some = _
    rw [ofDocument_text]
    rfl

theorem Holds.load (h : r.Holds stored) : r.load.1 = .ok stored ∧ r.load.2.Holds stored := ⟨h.stored_eq, h⟩

theorem Holds.save (h : r.Holds stored) (c : Config) : (r.save c).1 = .ok () ∧ (r.save c).2.Holds (some c) := by
  obtain ⟨hload, hsave, -⟩ := h
  rw [Repository.save]
  simp only [hsave, documentOf_eq]
  exact ⟨trivial, hload, rfl, rfl⟩

end Repository

namespace Shared

/-- The configuration in force: the one in the repository or, while there is none, that of the settings. -/
def InForce (s : Shared) (c : Config) : Prop := ∃ stored, s.repository.Holds stored ∧ stored.getD s.initial = c

variable {s : Shared} {c : Config}

/-- Loading touches nothing but the repository, whatever it answers. -/
theorem frame_of_load {answer : Except StorageError Config} {s' : Shared} (h : s.load = (answer, s')) :
    s'.cache = s.cache ∧ s'.locked = s.locked := by
  obtain rfl : s.load.2 = s' := congrArg Prod.snd h
  exact ⟨rfl, rfl⟩

/-- Nor does saving. -/
theorem frame_of_save {answer : Except StorageError Unit} {s' : Shared} (h : s.save c = (answer, s')) :
    s'.cache = s.cache ∧ s'.locked = s.locked := by
  obtain rfl : (s.save c).2 = s' := congrArg Prod.snd h
  exact ⟨rfl, rfl⟩

/-- **Loading gives the configuration in force** and leaves it in force. -/
theorem InForce.load (h : s.InForce c) :
    ∃ s', s.load = (.ok c, s') ∧ s'.InForce c ∧ s'.cache = s.cache ∧ s'.locked = s.locked := by
  obtain ⟨stored, hholds, hc⟩ := h
  obtain ⟨hanswer, hafter⟩ := hholds.load
  refine ⟨{ s with repository := s.repository.load.2 }, ?_, ⟨stored, hafter, hc⟩, rfl, rfl⟩
  rw [Shared.load]
  simp only [hanswer, Except.map, hc]

/-- **Saving puts a configuration in force.** -/
theorem InForce.save (h : s.InForce c) (d : Config) :
    ∃ s', s.save d = (.ok (), s') ∧ s'.InForce d ∧ s'.cache = s.cache ∧ s'.locked = s.locked := by
  obtain ⟨stored, hholds, -⟩ := h
  obtain ⟨hanswer, hafter⟩ := hholds.save d
  refine ⟨{ s with repository := (s.repository.save d).2 }, ?_, ⟨some d, hafter, rfl⟩, rfl, rfl⟩
  rw [Shared.save]
  simp only [hanswer]

/-! ## Operations that run alone -/

/-- A configuration is in force, and a cached copy is a copy of it. -/
def Coherent (s : Shared) (c : Config) : Prop := s.InForce c ∧ ∀ d, s.cache = some d → d = c

/-- **Reading alone** answers with the configuration in force, and leaves it and its document as they are. -/
theorem Coherent.get (h : s.Coherent c) :
    s.get.1 = .ok c ∧ s.get.2.Coherent c ∧ s.get.2.repository.document = s.repository.document := by
  obtain ⟨hforce, hcached⟩ := h
  rw [Shared.get]
  split
  · next d hd =>
    exact ⟨congrArg Except.ok (hcached d hd), ⟨hforce, hcached⟩, rfl⟩
  · obtain ⟨s', hload, hforce', -, -⟩ := hforce.load
    have hdocument : s.load.2.repository.document = s.repository.document := rfl
    rw [hload] at hdocument ⊢
    refine ⟨rfl, ⟨hforce', fun d hd => ?_⟩, hdocument⟩
    cases hd
    rfl

/-- **Updating alone** answers with the configuration in force, updated, and puts it in force. -/
theorem Coherent.update (h : s.Coherent c) (u : Update) (now : Timestamp) :
    (s.update u now).1 = .ok (c.apply u now) ∧ (s.update u now).2.Coherent (c.apply u now) := by
  obtain ⟨s₁, hload, hforce₁, -, -⟩ := h.1.load
  obtain ⟨s₂, hsave, hforce₂, -, -⟩ := hforce₁.save (c.apply u now)
  rw [Shared.update, hload]
  simp only [hsave]
  refine ⟨trivial, hforce₂, fun d hd => ?_⟩
  cases hd
  rfl

end Shared

end ConfigService
