import ConfigService.Proofs.Store.Traffic
import ConfigService.Service.Handle
/-!
# Consistency — what calls can rely on, however they are interleaved

The store of a service begins with a repository that is new or holds a configuration, an empty cache and a free lock.
Whatever happens from there on, the state is consistent, and this is what callers can see of it.
-/
namespace ConfigService
namespace Traffic

variable {t t' : Traffic} {initial : Config}

theorem consistent_service (settings : Settings) {stored : Option Config} {r : Repository} (hr : r.Holds stored) :
    Consistent (stored.getD settings.initialConfig) (start (Service.start settings r).shared) :=
  consistent_start ⟨stored, hr, rfl⟩ rfl

theorem Consistent.load_eq (h : Consistent initial t) : t.shared.load.1 = .ok (t.replay t.saved initial) := by
  obtain ⟨s, hload, -⟩ := h.inForce.load
  rw [hload]

/-- With the lock free, no update is between saving and caching. -/
theorem Consistent.cached_of_free (h : Consistent initial t) (hfree : t.shared.locked = false) {c : Config}
    (hcache : t.shared.cache = some c) : c = t.replay t.saved initial := by
  refine (h.cached c hcache).resolve_right fun hpending => ?_
  obtain ⟨i, u, now, d, seen, hi, -, -⟩ := hpending
  have hlocked := ((h.stands i _ hi).owns id).1
  rw [hfree] at hlocked
  cases hlocked

/-- An update that has returned is seen by every reader that arrives afterwards. -/
theorem Consistent.shows_of_run (h : Consistent initial t) {i : Nat} (hi : t.Returned i) {events : List Event}
    (hr : t.run? events = some t') {j : Nat} (hj : t.calls.length ≤ j) {answer : Except StorageError Config}
    (hanswer : t'.calls[j]? = some ⟨.get, .done answer⟩) : t'.Shows initial i answer := by
  have hw : Watched initial i t.calls.length t := by
    refine ⟨hi, fun k hk answer hanswer => ?_⟩
    rw [List.getElem?_eq_none hk] at hanswer
    cases hanswer
  exact (hw.run h hr).shown j hj answer hanswer

/-- **Calls that run at the same time are consistent.**  For every repository to begin with and every course of events:
with the lock free, a cached copy is the configuration that loading gives; loading gives what the saved updates make of the
first configuration in the order in which they took the lock, each of them once and none that has returned left out; and a
reader that arrives after an update has returned answers with a configuration that the update has gone into. -/
theorem run_consistent (settings : Settings) (stored : Option Config) :
    ∃ r, Repository.opened stored = .ok r ∧
      ∀ events t, (start (Service.start settings r).shared).run? events = some t →
        (t.shared.locked = false → ∀ c, t.shared.cache = some c → t.shared.load.1 = .ok c) ∧
        (t.entered.Nodup ∧ (∀ i, t.Returned i → i ∈ t.saved) ∧
          t.shared.load.1 = .ok (t.replay (t.entered.filter (· ∈ t.saved)) (stored.getD settings.initialConfig))) ∧
        ∀ events' t', t.run? events' = some t' → ∀ i, t.Returned i → ∀ j ≥ t.calls.length, ∀ answer,
          t'.calls[j]? = some ⟨.get, .done answer⟩ → t'.Shows (stored.getD settings.initialConfig) i answer := by
  obtain ⟨r, hopened, hr⟩ := Repository.exists_opened stored
  refine ⟨r, hopened, fun events t hrun => ?_⟩
  have h := (consistent_service settings hr).run hrun
  refine ⟨fun hfree c hcache => ?_, ⟨h.nodup, fun i hi => hi.mem_saved h, ?_⟩, fun events' t' hrun' i hi j hj answer ha => ?_⟩
  · rw [h.load_eq, h.cached_of_free hfree hcache]
  · rw [h.order, h.load_eq]
  · exact h.shows_of_run hi hrun' hj ha

/-- An update returns while two readers that have found the cache empty wait for the lock. -/
def updateAmongReaders : List Event :=
  [.arrive .get, .arrive (.update (.ofCacheDuration 60) .epoch), .arrive .get, .move 0, .move 1, .move 2, .move 1,
    .move 1, .move 1, .move 1]

/-- One of the two takes the lock, and another reader arrives and answers. -/
def lateReader : List Event := [.move 0, .arrive .get, .move 3]

theorem run_consistent_lateReader : ∃ r t t' c, Repository.opened none = .ok r ∧
    (start (Service.start .standard r).shared).run? updateAmongReaders = some t ∧ t.Returned 1 ∧
    t.run? lateReader = some t' ∧ t'.calls[3]? = some ⟨.get, .done (.ok c)⟩ ∧
    c = Config.standard.apply (.ofCacheDuration 60) .epoch ∧ t.shared.load.1 = .ok c ∧
    t'.Shows .standard 1 (.ok c) := by
  have hruns : ∃ t t', (start (Service.start .standard .empty).shared).run? updateAmongReaders = some t ∧
      t.Returned 1 ∧ t.calls.length = 3 ∧ t.shared.locked = false ∧
      t.shared.cache = some (Config.standard.apply (.ofCacheDuration 60) .epoch) ∧ t.run? lateReader = some t' ∧
      t'.calls[3]? = some ⟨.get, .done (.ok (Config.standard.apply (.ofCacheDuration 60) .epoch))⟩ :=
    ⟨_, _, rfl, ⟨_, _, _, rfl⟩, rfl, rfl, rfl, rfl, rfl⟩
  obtain ⟨t, t', hrun, hreturned, hlength, hfree, hcache, hlate, hanswer⟩ := hruns
  obtain ⟨r, hopened, hconsistent⟩ := run_consistent .standard none
  cases hopened
  obtain ⟨hcached, -, hshows⟩ := hconsistent updateAmongReaders t hrun
  exact ⟨.empty, t, t', _, rfl, hrun, hreturned, hlate, hanswer, rfl, hcached hfree _ hcache,
    hshows lateReader t' hlate 1 hreturned 3 (Nat.le_of_eq hlength) _ hanswer⟩

end Traffic
end ConfigService
