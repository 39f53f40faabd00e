import ConfigService.Proofs.Store.Access
import ConfigService.Store.Storage
/-!
# Storage — a failure leaves no trace

What a call can come to is told once, by how the storage answers it (`Storage.Outcome`, `Storage.outcome`).  Whatever it
is, the cache holds nothing but the configuration in force, and that is the first one with the updates that were answered
with success (`Storage.Settled`), after one call and after any number of them.  A repository is a storage
(`Repository.storage`), and the calls on it are the ones told here (`Repository.runAlone_state`).
-/
namespace ConfigService

namespace Storage

variable {ρ : Type} {S : Storage ρ} {s s' : State ρ} {c : Config} {task : Task}

/-! ## What a call can come to -/

/-- What a call comes to that begins with the lock free: the failures of the storage, the answer, and the state after it. -/
inductive Outcome (S : Storage ρ) (s : State ρ) :
    Task → List StorageError → Except StorageError Config → State ρ → Prop
  | served {c : Config} : s.cache = some c → Outcome S s .get [] (.ok c) s
  | unloaded {task : Task} {e : StorageError} {r : ρ} : (task = .get → s.cache = none) →
      S.load s.place = (.error e, r) → Outcome S s task [e] (.error e) { s with place := r }
  | loaded {c : Option Config} {r : ρ} : s.cache = none → S.load s.place = (.ok c, r) →
      Outcome S s .get [] (.ok (c.getD s.initial)) { s with place := r, cache := some (c.getD s.initial) }
  | unsaved {u : Update} {now : Timestamp} {c : Option Config} {r r' : ρ} {e : StorageError} :
      S.load s.place = (.ok c, r) → S.save ((c.getD s.initial).apply u now) r = (.error e, r') →
      Outcome S s (.update u now) [e] (.error e) { s with place := r' }
  | saved {u : Update} {now : Timestamp} {c : Option Config} {r r' : ρ} :
      S.load s.place = (.ok c, r) → S.save ((c.getD s.initial).apply u now) r = (.ok (), r') →
      Outcome S s (.update u now) [] (.ok ((c.getD s.initial).apply u now))
        { s with place := r', cache := some ((c.getD s.initial).apply u now) }

section Steps

-- each way is walked through step by step
attribute [local simp] call failures longest runAlone failuresIn failure? step? Task.first Task.afterEnter Task.afterLoad

theorem outcome_get (S : Storage ρ) (hfree : s.locked = false) :
    ∃ answer s', S.call .get s = (.done answer, s') ∧ S.Outcome s .get (S.failures .get s) answer s' := by
  obtain ⟨initial, place, cache, locked⟩ := s
  simp only at hfree
  subst hfree
  cases cache with
  | some c => exact ⟨_, _, rfl, .served rfl⟩
  | none =>
    cases hload : S.load place with
    | mk answer r =>
      cases answer with
      | error e =>
        have hcall : S.call .get ⟨initial, place, none, false⟩ = (.done (.error e), ⟨initial, r, none, false⟩) := by
          simp [hload]
        have hfailures : S.failures .get ⟨initial, place, none, false⟩ = [e] := by
          simp [hload]
        rw [hfailures]
        exact ⟨_, _, hcall, .unloaded (fun _ => rfl) hload⟩
      | ok c =>
        have hcall : S.call .get ⟨initial, place, none, false⟩ =
            (.done (.ok (c.getD initial)), ⟨initial, r, some (c.getD initial), false⟩) := by
          simp [hload]
        have hfailures : S.failures .get ⟨initial, place, none, false⟩ = [] := by
          simp [hload]
        rw [hfailures]
        exact ⟨_, _, hcall, .loaded rfl hload⟩

theorem outcome_update (S : Storage ρ) (hfree : s.locked = false) (u : Update) (now : Timestamp) :
    ∃ answer s', S.call (.update u now) s = (.done answer, s') ∧
      S.Outcome s (.update u now) (S.failures (.update u now) s) answer s' := by
  obtain ⟨initial, place, cache, locked⟩ := s
  simp only at hfree
  subst hfree
  cases hload : S.load place with
  | mk answer r =>
    cases answer with
    | error e =>
      have hcall : S.call (.update u now) ⟨initial, place, cache, false⟩ =
          (.done (.error e), ⟨initial, r, cache, false⟩) := by
        simp [hload]
      have hfailures : S.failures (.update u now) ⟨initial, place, cache, false⟩ = [e] := by
        simp [hload]
      have hget : Task.update u now = .get → cache = none := by
        intro h
        cases h
      rw [hfailures]
      exact ⟨_, _, hcall, .unloaded hget hload⟩
    | ok c =>
      cases hsave : S.save ((c.getD initial).apply u now) r with
      | mk answer r' =>
        cases answer with
        | error e =>
          have hcall : S.call (.update u now) ⟨initial, place, cache, false⟩ =
              (.done (.error e), ⟨initial, r', cache, false⟩) := by
            simp [hload, hsave]
          have hfailures : S.failures (.update u now) ⟨initial, place, cache, false⟩ = [e] := by
            simp [hload, hsave]
          rw [hfailures]
          exact ⟨_, _, hcall, .unsaved hload hsave⟩
        | ok =>
          have hcall : S.call (.update u now) ⟨initial, place, cache, false⟩ =
              (.done (.ok ((c.getD initial).apply u now)),
                ⟨initial, r', some ((c.getD initial).apply u now), false⟩) := by
            simp [hload, hsave]
          have hfailures : S.failures (.update u now) ⟨initial, place, cache, false⟩ = [] := by
            simp [hload, hsave]
          rw [hfailures]
          exact ⟨_, _, hcall, .saved hload hsave⟩

end Steps

/-- **A call ends**, in one of five ways. -/
theorem outcome (S : Storage ρ) (hfree : s.locked = false) (task : Task) :
    ∃ answer s', S.call task s = (.done answer, s') ∧ S.Outcome s task (S.failures task s) answer s' := by
  cases task with
  | get => exact outcome_get S hfree
  | update u now => exact outcome_update S hfree u now

/-! ## What is kept -/

section Kept

variable {place r : ρ} {answer : Except StorageError (Option Config)} {stored : Option Config} {e : StorageError}

theorem kept_of_load (h : S.load place = (answer, r)) : S.kept r = S.kept place := by
  have hkept := S.kept_load place
  rw [h] at hkept
  exact hkept

theorem eq_kept_of_load (h : S.load place = (.ok stored, r)) : stored = S.kept place := by
  have hok := S.load_ok place stored
  rw [h] at hok
  exact hok rfl

theorem kept_of_save (h : S.save c place = (.ok (), r)) : S.kept r = some c := by
  have hok := S.save_ok c place
  rw [h] at hok
  exact hok rfl

theorem kept_of_save_error (h : S.save c place = (.error e, r)) : S.kept r = S.kept place := by
  have herror := S.save_error c place e
  rw [h] at herror
  exact herror rfl

end Kept

/-! ## One call -/

/-- No call is under way, a certain configuration is in force, and the cache holds no other. -/
structure Settled (S : Storage ρ) (c : Config) (s : State ρ) : Prop where
  free : s.locked = false
  inForce : S.inForce s = c
  cached : ∀ d, s.cache = some d → d = c

variable {failures : List StorageError} {answer : Except StorageError Config}

/-- **After a call** all is settled again, for the configuration that the call has left in force. -/
theorem Outcome.settled (h : S.Outcome s task failures answer s') (hs : S.Settled c s) :
    S.Settled (c.afterCall (task, .done answer)) s' := by
  obtain ⟨hfree, hforce, hcached⟩ := hs
  unfold Storage.inForce at hforce
  cases h with
  | served hcache => exact ⟨hfree, hforce, hcached⟩
  | @unloaded _ e r hget hload =>
    have hafter : c.afterCall (task, .done (.error e)) = c := by cases task <;> rfl
    rw [hafter]
    refine ⟨hfree, ?_, hcached⟩
    rw [Storage.inForce, kept_of_load hload, hforce]
  | loaded hcache hload =>
    have hstored := eq_kept_of_load hload
    refine ⟨hfree, ?_, fun d hd => ?_⟩
    · rw [Storage.inForce, kept_of_load hload, hforce]
      rfl
    · cases hd
      rw [hstored, hforce]
      rfl
  | unsaved hload hsave =>
    refine ⟨hfree, ?_, hcached⟩
    rw [Storage.inForce, kept_of_save_error hsave, kept_of_load hload, hforce]
    rfl
  | saved hload hsave =>
    have hstored := eq_kept_of_load hload
    refine ⟨hfree, ?_, fun d hd => ?_⟩
    · rw [Storage.inForce, kept_of_save hsave, hstored, hforce]
      rfl
    · cases hd
      rw [hstored, hforce]
      rfl

/-- **A failure is the answer**, and the call in which it happens changes neither the cache nor what is kept. -/
theorem Outcome.failed (h : S.Outcome s task failures answer s') :
    ∀ e ∈ failures, answer = .error e ∧ s'.cache = s.cache ∧ S.kept s'.place = S.kept s.place := by
  intro e he
  cases h with
  | served hcache => cases he
  | unloaded hget hload =>
    obtain rfl := List.mem_singleton.1 he
    exact ⟨rfl, rfl, kept_of_load hload⟩
  | loaded hcache hload => cases he
  | unsaved hload hsave =>
    obtain rfl := List.mem_singleton.1 he
    exact ⟨rfl, rfl, (kept_of_save_error hsave).trans (kept_of_load hload)⟩
  | saved hload hsave => cases he

theorem Outcome.succeeded (h : S.Outcome s task failures answer s') (hnone : failures = []) : ∃ d, answer = .ok d := by
  cases h with
  | served hcache => exact ⟨_, rfl⟩
  | unloaded hget hload => cases hnone
  | loaded hcache hload => exact ⟨_, rfl⟩
  | unsaved hload hsave => cases hnone
  | saved hload hsave => exact ⟨_, rfl⟩

/-- **A call that succeeds answers with the configuration that it leaves in force.** -/
theorem Outcome.answered (h : S.Outcome s task failures answer s') (hs : S.Settled c s) {d : Config}
    (hd : answer = .ok d) : d = c.afterCall (task, .done (.ok d)) := by
  obtain ⟨-, hforce, hcached⟩ := hs
  unfold Storage.inForce at hforce
  cases h with
  | served hcache =>
    cases hd
    exact hcached _ hcache
  | unloaded hget hload => cases hd
  | loaded hcache hload =>
    cases hd
    rw [eq_kept_of_load hload, hforce]
    rfl
  | unsaved hload hsave => cases hd
  | saved hload hsave =>
    cases hd
    rw [eq_kept_of_load hload, hforce]
    rfl

/-! ## Many calls -/

theorem Settled.call (h : S.Settled c s) (task : Task) :
    S.Settled (c.afterCall (task, (S.call task s).1)) (S.call task s).2 := by
  obtain ⟨answer, s', hcall, houtcome⟩ := outcome S h.free task
  rw [hcall]
  exact houtcome.settled h

/-- **After any number of calls** all is settled, for the first configuration with the updates that were answered with
success. -/
theorem Settled.serve (tasks : List Task) : ∀ {c : Config} {s : State ρ}, S.Settled c s →
    S.Settled ((S.serve tasks s).1.foldl Config.afterCall c) (S.serve tasks s).2 := by
  induction tasks with
  | nil => exact fun h => h
  | cons task tasks ih => exact fun h => ih (h.call task)

theorem settled_start (S : Storage ρ) (initial : Config) (r : ρ) :
    S.Settled ((S.kept r).getD initial) (.start initial r) :=
  ⟨rfl, rfl, nofun⟩

/-- What holds of a call, where a configuration is in force. -/
structure LeavesNoTrace (S : Storage ρ) (c : Config) (task : Task) (s : State ρ) : Prop where
  ends : ∃ answer, (S.call task s).1 = .done answer
  frees : (S.call task s).2.locked = false
  /-- A failure of the storage is the answer, and nothing has changed. -/
  fails : ∀ e ∈ S.failures task s, (S.call task s).1 = .done (.error e) ∧
    (S.call task s).2.cache = s.cache ∧ S.kept (S.call task s).2.place = S.kept s.place
  succeeds : S.failures task s = [] → ∃ d, (S.call task s).1 = .done (.ok d)
  /-- A copy in the cache is served, and nothing at all changes. -/
  served : ∀ d, task = .get → s.cache = some d → S.call task s = (.done (.ok d), s)
  /-- The cache is empty or holds what is kept, which is what a loading gives if it succeeds. -/
  cached : ∀ d, (S.call task s).2.cache = some d → d = S.inForce (S.call task s).2 ∧
    ∀ stored, (S.load (S.call task s).2.place).1 = .ok stored → d = stored.getD (S.call task s).2.initial
  /-- A call that succeeds sees the updates that were answered with success, its own among them, and no others. -/
  sees : ∀ d, (S.call task s).1 = .done (.ok d) → d = c.afterCall (task, .done (.ok d))

theorem Settled.leavesNoTrace (h : S.Settled c s) (task : Task) : S.LeavesNoTrace c task s := by
  obtain ⟨answer, s', hcall, houtcome⟩ := outcome S h.free task
  have hafter := houtcome.settled h
  constructor
  case ends => exact ⟨answer, congrArg Prod.fst hcall⟩
  case frees =>
    rw [hcall]
    exact hafter.free
  case fails =>
    intro e he
    obtain ⟨hanswer, hcache, hkept⟩ := houtcome.failed e he
    rw [hcall, hanswer]
    exact ⟨rfl, hcache, hkept⟩
  case succeeds =>
    intro hnone
    obtain ⟨d, hd⟩ := houtcome.succeeded hnone
    rw [hcall, hd]
    exact ⟨d, rfl⟩
  case served =>
    rintro d rfl hd
    rw [Storage.call, longest, runAlone, Task.first, step?, hd]
    rfl
  case cached =>
    intro d hd
    rw [hcall] at hd ⊢
    have hforce : d = S.inForce s' := (hafter.cached d hd).trans hafter.inForce.symm
    refine ⟨hforce, fun stored hstored => ?_⟩
    rw [hforce, Storage.inForce, S.load_ok s'.place stored hstored]
  case sees =>
    intro d hd
    rw [hcall] at hd
    cases hd
    exact houtcome.answered h rfl

end Storage

/-! ## The repository as a storage -/

namespace Repository

/-- A repository, whatever document it holds and whether it fails or not. -/
def storage : Storage Repository where
  load := load
  save := save
  kept r := r.document.bind fun d => (ofDocument d).toOption
  load_ok r c h := by
    unfold load stored at h
    cases hfault : r.loadFault with
    | some reason => simp [hfault] at h
    | none =>
      cases hdocument : r.document with
      | none =>
        simp only [hfault, hdocument] at h
        cases h
        rfl
      | some d =>
        simp only [hfault, hdocument] at h
        obtain ⟨c, hc, rfl⟩ := Json.exists_of_map_eq_ok h
        rw [Option.bind_some, hc]
        rfl
  kept_load r := rfl
  save_ok c r h := by
    unfold save at h ⊢
    cases hfault : r.saveFault with
    | some reason => simp [hfault] at h
    | none =>
      simp only [documentOf_eq, Option.bind_some, ofDocument_text]
      rfl
  save_error c r e h := by
    unfold save at h ⊢
    cases hfault : r.saveFault with
    | some reason => rfl
    | none => simp [hfault, documentOf_eq] at h

theorem step?_state (task : Task) (phase : Phase) (s : Shared) :
    storage.step? task phase s.state = (Call.step? task phase s).map fun (phase, s) => (phase, s.state) := by
  cases phase with
  | look => cases hcache : s.cache <;> simp [Storage.step?, Call.step?, Shared.state, hcache]
  | enter => cases hlocked : s.locked <;> simp [Storage.step?, Call.step?, Shared.state, hlocked]
  | lookAgain => cases hcache : s.cache <;> simp [Storage.step?, Call.step?, Shared.state, hcache]
  | load =>
    cases hload : s.repository.load with
    | mk answer r =>
      cases answer <;> simp [Storage.step?, Call.step?, Shared.state, Shared.load, storage, hload, Except.map]
  | save c =>
    cases hsave : s.repository.save c with
    | mk answer r =>
      cases answer <;> simp [Storage.step?, Call.step?, Shared.state, Shared.save, storage, hsave]
  | fill c => rfl
  | leave answer => rfl
  | done answer => rfl

/-- **The calls on a repository** move as told here. -/
theorem runAlone_state (task : Task) (steps : Nat) :
    ∀ (phase : Phase) (s : Shared), storage.runAlone task steps phase s.state =
      ((Call.runAlone task steps phase s).1, (Call.runAlone task steps phase s).2.state) := by
  induction steps with
  | zero => exact fun phase s => rfl
  | succ steps ih =>
    intro phase s
    rw [Storage.runAlone, Call.runAlone, step?_state]
    cases Call.step? task phase s with
    | none => rfl
    | some next => exact ih next.1 next.2

end Repository

/-- **Failures of the storage leave no trace**, whatever the storage is and whenever it fails.  After any calls, the next
one ends with the lock free.  If the storage fails in it, it answers with that failure and leaves the cache and what is kept
as they were; otherwise it succeeds, as it always does when it is served from the cache, and sees just the updates that were
answered with success.  The cache is empty or holds what is kept.  The calls on a repository are such calls. -/
theorem Storage.failures_leave_no_trace :
    (∀ (ρ : Type) (S : Storage ρ) (initial : Config) (r : ρ) (tasks : List Task) (task : Task),
      S.LeavesNoTrace ((S.serve tasks (.start initial r)).1.foldl Config.afterCall ((S.kept r).getD initial)) task
        (S.serve tasks (.start initial r)).2) ∧
    ∀ (task : Task) (steps : Nat) (phase : Phase) (s : Shared),
      Repository.storage.runAlone task steps phase s.state =
        ((Call.runAlone task steps phase s).1, (Call.runAlone task steps phase s).2.state) := by
  refine ⟨fun ρ S initial r tasks task => ?_, Repository.runAlone_state⟩
  exact ((settled_start S initial r).serve tasks).leavesNoTrace task

/-- A repository to which nothing can be saved. -/
def Repository.full : Repository := { empty with saveFault := some "disk full" }

theorem Storage.failures_leave_no_trace_full : ∃ (now : Timestamp) (s : State Repository),
    s = (Repository.storage.serve [.get] (.start .standard .full)).2 ∧ s.cache = some .standard ∧
    Repository.storage.failures (.update .empty now) s = [.encoding "disk full"] ∧
    (Repository.storage.call (.update .empty now) s).1 = .done (.error (.encoding "disk full")) ∧
    (Repository.storage.call (.update .empty now) s).2.cache = some .standard := by
  have hcall := failures_leave_no_trace.1 Repository Repository.storage .standard .full [.get] (.update .empty .epoch)
  have hfailures : Repository.storage.failures (.update .empty .epoch)
      (Repository.storage.serve [.get] (.start .standard .full)).2 = [.encoding "disk full"] := rfl
  have hfails := hcall.fails (.encoding "disk full")
  rw [hfailures] at hfails
  obtain ⟨hanswer, hcache, -⟩ := hfails List.mem_cons_self
  exact ⟨_, _, rfl, rfl, hfailures, hanswer, hcache⟩

end ConfigService
