import ConfigService.Proofs.Store.Access
import ConfigService.Store.Traffic
/-!
# Traffic — calls that run at the same time do not disturb each other

The configuration in force is the one that the saved updates make, in the order in which they were saved, and this is the
order in which they took the lock: a call that saves is the one that entered last.  A cached copy is that configuration,
with one exception: between saving and caching, an update leaves the copy from before it in the cache.  It holds the lock
then, and has not returned.  So with the lock free the copy is right, and a reader can at worst see the state before an
update that is still under way.

`Consistent` says this of a state, with where each call stands; it holds at the start and each event keeps it.
-/
namespace ConfigService

/-! ## One step of a call -/

namespace Call

/-- What one step of a call is, whatever the repository answers. -/
inductive Made (s : Shared) (task : Task) : Phase → Phase → Shared → Prop
  | found {d : Config} (hcache : s.cache = some d) : Made s task .look (.done (.ok d)) s
  | missed (hcache : s.cache = none) : Made s task .look .enter s
  | entered (hfree : s.locked = false) : Made s task .enter task.afterEnter { s with locked := true }
  | foundAgain {d : Config} (hcache : s.cache = some d) : Made s task .lookAgain (.leave (.ok d)) s
  | missedAgain (hcache : s.cache = none) : Made s task .lookAgain .load s
  | loaded {d : Config} {s' : Shared} (hload : s.load = (.ok d, s')) : Made s task .load (task.afterLoad d) s'
  | unloaded {e : StorageError} {s' : Shared} (hload : s.load = (.error e, s')) : Made s task .load (.leave (.error e)) s'
  | saved {d : Config} {s' : Shared} (hsave : s.save d = (.ok (), s')) : Made s task (.save d) (.fill d) s'
  | unsaved {d : Config} {e : StorageError} {s' : Shared} (hsave : s.save d = (.error e, s')) :
      Made s task (.save d) (.leave (.error e)) s'
  | filled {d : Config} : Made s task (.fill d) (.leave (.ok d)) (s.fill d)
  | left {a : Except StorageError Config} : Made s task (.leave a) (.done a) { s with locked := false }

theorem made_of_step? {s s' : Shared} {task : Task} {phase phase' : Phase}
    (hs : step? task phase s = some (phase', s')) : Made s task phase phase' s' := by
  cases phase with
  | look =>
    rw [step?] at hs
    split at hs
    · next hcache =>
      cases hs
      exact .found hcache
    · next hcache =>
      cases hs
      exact .missed hcache
  | enter =>
    rw [step?] at hs
    split at hs
    · cases hs
    · next hfree =>
      cases hs
      exact .entered (Bool.eq_false_iff.2 hfree)
  | lookAgain =>
    rw [step?] at hs
    split at hs
    · next hcache =>
      cases hs
      exact .foundAgain hcache
    · next hcache =>
      cases hs
      exact .missedAgain hcache
  | load =>
    rw [step?] at hs
    split at hs
    · next hload =>
      cases hs
      exact .loaded hload
    · next hload =>
      cases hs
      exact .unloaded hload
  | save d =>
    rw [step?] at hs
    split at hs
    · next hsave =>
      cases hs
      exact .saved hsave
    · next hsave =>
      cases hs
      exact .unsaved hsave
  | fill d =>
    cases hs
    exact .filled
  | leave a =>
    cases hs
    exact .left
  | done a => cases hs

/-- What one step of a call does while a configuration is in force. -/
inductive Step (s : Shared) (c : Config) (task : Task) : Phase → Phase → Shared → Prop
  | found {d : Config} (hcache : s.cache = some d) : Step s c task .look (.done (.ok d)) s
  | missed : Step s c task .look .enter s
  | entered (hfree : s.locked = false) : Step s c task .enter task.afterEnter { s with locked := true }
  | foundAgain {d : Config} (hcache : s.cache = some d) : Step s c task .lookAgain (.leave (.ok d)) s
  | missedAgain : Step s c task .lookAgain .load s
  | loaded {s' : Shared} (hforce : s'.InForce c) (hcache : s'.cache = s.cache) (hlocked : s'.locked = s.locked) :
      Step s c task .load (task.afterLoad c) s'
  | saved {d : Config} {s' : Shared} (hforce : s'.InForce d) (hcache : s'.cache = s.cache)
      (hlocked : s'.locked = s.locked) : Step s c task (.save d) (.fill d) s'
  | filled {d : Config} : Step s c task (.fill d) (.leave (.ok d)) (s.fill d)
  | left {a : Except StorageError Config} : Step s c task (.leave a) (.done a) { s with locked := false }

/-- **Where a configuration is in force, no step fails.** -/
theorem step_of_step? {s s' : Shared} {c : Config} {task : Task} {phase phase' : Phase} (h : s.InForce c)
    (hs : step? task phase s = some (phase', s')) : Step s c task phase phase' s' := by
  obtain ⟨_, hload, hafterLoad⟩ := h.load
  cases made_of_step? hs with
  | found hcache => exact .found hcache
  | missed => exact .missed
  | entered hfree => exact .entered hfree
  | foundAgain hcache => exact .foundAgain hcache
  | missedAgain => exact .missedAgain
  | loaded hloaded =>
    cases hload.symm.trans hloaded
    exact .loaded hafterLoad.1 hafterLoad.2.1 hafterLoad.2.2
  | unloaded hunloaded => cases hload.symm.trans hunloaded
  | @saved d _ hsaved =>
    obtain ⟨_, hsave, hforce, hcache, hlocked⟩ := h.save d
    cases hsave.symm.trans hsaved
    exact .saved hforce hcache hlocked
  | @unsaved d _ _ hunsaved =>
    obtain ⟨_, hsave, -⟩ := h.save d
    cases hsave.symm.trans hunsaved
  | filled => exact .filled
  | left => exact .left

end Call

namespace Traffic

variable {t t' : Traffic} {i j : Nat} {task : Task} {phase phase' : Phase} {initial c : Config}

/-! ## All calls -/

/-- What holds of a call that has moved and of all others holds of all. -/
theorem forall_call_set {P : Nat → Call → Prop} (hcalls : t'.calls = t.calls.set j ⟨task, phase'⟩)
    (hj : P j ⟨task, phase'⟩) (hothers : ∀ i call, j ≠ i → t.calls[i]? = some call → P i call) :
    ∀ i call, t'.calls[i]? = some call → P i call := by
  intro i call hi
  rw [hcalls, List.getElem?_set] at hi
  by_cases h : j = i
  · subst h
    rw [if_pos rfl] at hi
    split at hi
    · cases hi
      exact hj
    · cases hi
  · rw [if_neg h] at hi
    exact hothers i call h hi

/-- What holds of a call that arrives and of all others holds of all. -/
theorem forall_call_append {P : Nat → Call → Prop} (hnew : P t.calls.length task.start)
    (hothers : ∀ i call, t.calls[i]? = some call → P i call) :
    ∀ i call, (t.calls ++ [task.start])[i]? = some call → P i call := by
  intro i call hi
  by_cases hlt : i < t.calls.length
  · rw [List.getElem?_append_left hlt] at hi
    exact hothers i call hi
  · rw [List.getElem?_append_right (Nat.not_lt.1 hlt), List.getElem?_singleton] at hi
    split at hi
    · next hlast =>
      cases hi
      rw [Nat.le_antisymm (Nat.le_of_sub_eq_zero hlast) (Nat.not_lt.1 hlt)]
      exact hnew
    · cases hi

/-! ## Replaying -/

theorem update?_set (hj : t.calls[j]? = some ⟨task, phase⟩) (hcalls : t'.calls = t.calls.set j ⟨task, phase'⟩) :
    t'.update? i = t.update? i := by
  unfold update?
  rw [hcalls, List.getElem?_set]
  by_cases h : j = i
  · subst h
    have hlt : j < t.calls.length := (List.getElem?_eq_some_iff.1 hj).1
    rw [if_pos rfl, if_pos hlt, hj]
    cases task <;> rfl
  · rw [if_neg h]

theorem replay_congr {order : List Nat} (h : ∀ i ∈ order, t'.update? i = t.update? i) :
    ∀ c, t'.replay order c = t.replay order c := by
  induction order with
  | nil => exact fun _ => rfl
  | cons i order ih =>
    intro c
    have hrest := ih fun k hk => h k (List.mem_cons_of_mem i hk)
    unfold replay at hrest ⊢
    rw [List.foldl_cons, List.foldl_cons, h i List.mem_cons_self]
    exact hrest _

theorem replay_set (hj : t.calls[j]? = some ⟨task, phase⟩) (hcalls : t'.calls = t.calls.set j ⟨task, phase'⟩)
    (order : List Nat) (c : Config) : t'.replay order c = t.replay order c :=
  replay_congr (fun _ _ => update?_set hj hcalls) c

theorem replay_append_update {u : Update} {now : Timestamp} (hj : t.calls[j]? = some ⟨.update u now, phase⟩)
    (order : List Nat) (c : Config) : t.replay (order ++ [j]) c = (t.replay order c).apply u now := by
  have hupdate : t.update? j = some (u, now) := by
    unfold update?
    rw [hj]
  unfold replay
  rw [List.foldl_append, List.foldl_cons, List.foldl_nil, hupdate]

/-! ## Where the calls stand -/

/-- A call has the lock, as the last that took it. -/
def Owns (t : Traffic) (call : Nat) : Prop := t.shared.locked = true ∧ t.entered.getLast? = some call

/-- What holds of a call in a phase while a configuration is in force. -/
def Stands (t : Traffic) (c : Config) (call : Nat) (task : Task) : Phase → Prop
  | .look => call ∉ t.entered ∧ task = .get
  | .enter => call ∉ t.entered
  | .lookAgain => t.Owns call ∧ task = .get
  | .load => t.Owns call ∧ (task = .get ∨ call ∉ t.saved)
  | .save d => t.Owns call ∧ call ∉ t.saved ∧ ∃ u now, task = .update u now ∧ d = c.apply u now
  | .fill d => t.Owns call ∧ d = c ∧ (task = .get ∨ call ∈ t.saved)
  | .leave answer => t.Owns call ∧ answer = .ok c ∧ (task = .get ∨ call ∈ t.saved)
  | .done answer => (∃ d, answer = .ok d) ∧ (task = .get ∨ call ∈ t.saved)

/-- The cached copy is from before an update that has saved and not yet cached. -/
def Pending (t : Traffic) (initial d : Config) : Prop :=
  ∃ i u now c seen, t.calls[i]? = some ⟨.update u now, .fill c⟩ ∧ t.saved = seen ++ [i] ∧ d = t.replay seen initial

/-- **What holds in every state.** -/
structure Consistent (initial : Config) (t : Traffic) : Prop where
  inForce : t.shared.InForce (t.replay t.saved initial)
  order : t.entered.filter (· ∈ t.saved) = t.saved
  nodup : t.entered.Nodup
  arrived : ∀ i ∈ t.entered, i < t.calls.length
  stands : ∀ i call, t.calls[i]? = some call → t.Stands (t.replay t.saved initial) i call.task call.phase
  cached : ∀ d, t.shared.cache = some d → d = t.replay t.saved initial ∨ t.Pending initial d

/-- A call that waits or has answered has not the lock. -/
def Outside : Phase → Prop
  | .look | .enter | .done _ => True
  | _ => False

theorem Stands.owns (h : t.Stands c i task phase) (hin : ¬Outside phase) : t.Owns i := by
  cases phase with
  | look => exact absurd trivial hin
  | enter => exact absurd trivial hin
  | done => exact absurd trivial hin
  | _ => exact h.1

theorem Owns.eq (hi : t.Owns i) (hj : t.Owns j) : i = j := Option.some.inj (hi.2.symm.trans hj.2)

/-- Where nothing that a call looks at changes, it stands as it stood. -/
theorem Stands.congr (h : t.Stands c i task phase) (hlocked : t'.shared.locked = t.shared.locked)
    (hentered : t'.entered = t.entered) (hsaved : t'.saved = t.saved) : t'.Stands c i task phase := by
  have howns : t'.Owns i ↔ t.Owns i := by rw [Owns, Owns, hlocked, hentered]
  cases phase <;> simpa only [Stands, howns, hentered, hsaved] using h

/-- A call without the lock does not see what becomes of it, nor what is in force. -/
theorem Stands.outside {c' : Config} (h : t.Stands c i task phase) (hout : Outside phase)
    (hentered : i ∈ t'.entered → i ∈ t.entered) (hsaved : i ∈ t.saved → i ∈ t'.saved) :
    t'.Stands c' i task phase := by
  cases phase with
  | look => exact ⟨fun hi => h.1 (hentered hi), h.2⟩
  | enter => exact fun hi => h (hentered hi)
  | done answer => exact ⟨h.1, h.2.imp_right hsaved⟩
  | _ => exact hout.elim

/-! ## Each event keeps it -/

theorem mem_entered_of_mem_saved (h : Consistent initial t) (hi : i ∈ t.saved) : i ∈ t.entered := by
  rw [← h.order] at hi
  exact (List.mem_filter.1 hi).1

theorem stands_set (hcalls : t'.calls = t.calls.set j ⟨task, phase'⟩) (hj : t'.Stands c j task phase')
    (hothers : ∀ i call, j ≠ i → t.calls[i]? = some call → t'.Stands c i call.task call.phase) :
    ∀ i call, t'.calls[i]? = some call → t'.Stands c i call.task call.phase :=
  forall_call_set hcalls (P := fun i call => t'.Stands c i call.task call.phase) hj hothers

theorem Pending.keep {d : Config} (h : t.Pending initial d) (hj : t.calls[j]? = some ⟨task, phase⟩)
    (hphase : ∀ c, phase ≠ .fill c) (hcalls : t'.calls = t.calls.set j ⟨task, phase'⟩) (hsaved : t'.saved = t.saved) :
    t'.Pending initial d := by
  obtain ⟨i, u, now, c, seen, hi, hseen, hd⟩ := h
  have hne : j ≠ i := by
    rintro rfl
    rw [hj] at hi
    cases hi
    exact hphase c rfl
  refine ⟨i, u, now, c, seen, ?_, hsaved.trans hseen, hd.trans (replay_set hj hcalls seen initial).symm⟩
  rw [hcalls, List.getElem?_set_ne hne]
  exact hi

/-- A step that neither saves nor caches leaves the cached copy to what it was. -/
theorem Consistent.cached_keep (h : Consistent initial t) (hj : t.calls[j]? = some ⟨task, phase⟩)
    (hphase : ∀ c, phase ≠ .fill c) (hcalls : t'.calls = t.calls.set j ⟨task, phase'⟩) (hsaved : t'.saved = t.saved)
    (hcache : t'.shared.cache = t.shared.cache) :
    ∀ d, t'.shared.cache = some d → d = t.replay t.saved initial ∨ t'.Pending initial d := by
  intro d hd
  rw [hcache] at hd
  exact (h.cached d hd).imp_right fun hp => hp.keep hj hphase hcalls hsaved

/-- **What the owner of the lock finds in the cache is in force**, unless it is about to cache itself: another update that
has saved and not yet cached would have the lock. -/
theorem Consistent.cached_of_owns (h : Consistent initial t) (howns : t.Owns j)
    (hj : t.calls[j]? = some ⟨task, phase⟩) (hphase : ∀ c, phase ≠ .fill c) {d : Config}
    (hcache : t.shared.cache = some d) : d = t.replay t.saved initial := by
  refine (h.cached d hcache).resolve_right fun hpending => ?_
  obtain ⟨i, u, now, c, seen, hi, -, -⟩ := hpending
  cases ((h.stands i _ hi).owns id).eq howns
  rw [hj] at hi
  cases hi
  exact hphase c rfl

/-- A step that neither takes nor gives back the lock nor saves. -/
theorem Consistent.keep (h : Consistent initial t) (hj : t.calls[j]? = some ⟨task, phase⟩)
    (hcalls : t'.calls = t.calls.set j ⟨task, phase'⟩) (hlocked : t'.shared.locked = t.shared.locked)
    (hentered : t'.entered = t.entered) (hsaved : t'.saved = t.saved)
    (hforce : t'.shared.InForce (t.replay t.saved initial))
    (hstand : t'.Stands (t.replay t.saved initial) j task phase')
    (hcached : ∀ d, t'.shared.cache = some d → d = t.replay t.saved initial ∨ t'.Pending initial d) :
    Consistent initial t' := by
  have hreplay : t'.replay t'.saved initial = t.replay t.saved initial := by rw [hsaved, replay_set hj hcalls]
  constructor
  · rw [hreplay]
    exact hforce
  · rw [hentered, hsaved]
    exact h.order
  · rw [hentered]
    exact h.nodup
  · rw [hentered, hcalls, List.length_set]
    exact h.arrived
  · rw [hreplay]
    exact stands_set hcalls hstand fun i call _ hi => (h.stands i call hi).congr hlocked hentered hsaved
  · rw [hreplay]
    exact hcached

theorem Consistent.enter (h : Consistent initial t) (hj : t.calls[j]? = some ⟨task, .enter⟩)
    (hfree : t.shared.locked = false) (hcalls : t'.calls = t.calls.set j ⟨task, task.afterEnter⟩)
    (hshared : t'.shared = { t.shared with locked := true }) (hentered : t'.entered = t.entered ++ [j])
    (hsaved : t'.saved = t.saved) : Consistent initial t' := by
  have hnew : j ∉ t.entered := h.stands j _ hj
  have hunsaved : j ∉ t.saved := fun hs => hnew (mem_entered_of_mem_saved h hs)
  have hlt : j < t.calls.length := (List.getElem?_eq_some_iff.1 hj).1
  have hreplay : t'.replay t'.saved initial = t.replay t.saved initial := by rw [hsaved, replay_set hj hcalls]
  have howns : t'.Owns j := by
    rw [Owns, hshared, hentered]
    exact ⟨rfl, List.getLast?_concat⟩
  constructor
  · rw [hreplay, hshared]
    exact h.inForce
  · rw [hentered, hsaved, List.filter_append, h.order]
    simp [hunsaved]
  · rw [hentered, List.nodup_append]
    refine ⟨h.nodup, by simp, fun a ha b hb hab => ?_⟩
    rw [hab, List.mem_singleton.1 hb] at ha
    exact hnew ha
  · intro i hi
    rw [hentered, List.mem_append, List.mem_singleton] at hi
    rw [hcalls, List.length_set]
    rcases hi with hi | rfl
    · exact h.arrived i hi
    · exact hlt
  · rw [hreplay]
    refine stands_set hcalls ?_ fun i call hne hi => ?_
    · cases task with
      | get => exact ⟨howns, rfl⟩
      | update u now =>
        refine ⟨howns, .inr ?_⟩
        rw [hsaved]
        exact hunsaved
    · by_cases hout : Outside call.phase
      · refine (h.stands i call hi).outside hout (fun hmem => ?_) fun hmem => by rwa [hsaved]
        rw [hentered, List.mem_append, List.mem_singleton] at hmem
        exact hmem.resolve_right (Ne.symm hne)
      · have hlocked := ((h.stands i call hi).owns hout).1
        rw [hfree] at hlocked
        exact absurd hlocked Bool.false_ne_true
  · rw [hreplay]
    exact h.cached_keep hj (fun _ => Phase.noConfusion) hcalls hsaved (by rw [hshared])

/-- A call that does not own the lock, while another does, is outside. -/
theorem outside_of_owns (h : Consistent initial t) (hj : t.Owns j) (hne : j ≠ i) {call : Call}
    (hi : t.calls[i]? = some call) : Outside call.phase := by
  by_cases hout : Outside call.phase
  · exact hout
  · exact absurd (hj.eq ((h.stands i call hi).owns hout)) hne

theorem Consistent.save {d : Config} (h : Consistent initial t) (hj : t.calls[j]? = some ⟨task, .save d⟩)
    (hcalls : t'.calls = t.calls.set j ⟨task, .fill d⟩) (hforce : t'.shared.InForce d)
    (hcache : t'.shared.cache = t.shared.cache) (hlocked : t'.shared.locked = t.shared.locked)
    (hentered : t'.entered = t.entered) (hsaved : t'.saved = t.saved ++ [j]) : Consistent initial t' := by
  obtain ⟨howns, hunsaved, u, now, rfl, hd⟩ := h.stands j _ hj
  have hmem : j ∈ t'.saved := by
    rw [hsaved]
    exact List.mem_append_right _ List.mem_cons_self
  have hreplay : t'.replay t'.saved initial = d := by
    rw [hsaved, replay_set hj hcalls, replay_append_update hj]
    exact hd.symm
  obtain ⟨es, hes⟩ := List.getLast?_eq_some_iff.1 howns.2
  constructor
  · rw [hreplay]
    exact hforce
  · -- the call that saves is the one that entered last
    have hnodup := h.nodup
    have horder := h.order
    rw [hes, List.nodup_append] at hnodup
    rw [hes, List.filter_append] at horder
    have hlast : [j].filter (· ∈ t.saved) = [] := by simp [hunsaved]
    rw [hlast, List.append_nil] at horder
    have hinit : es.filter (· ∈ t.saved ++ [j]) = es.filter (· ∈ t.saved) := by
      refine List.filter_congr fun x hx => ?_
      have hxj : x ≠ j := hnodup.2.2 x hx j List.mem_cons_self
      simp [hxj]
    rw [hentered, hsaved, hes, List.filter_append, hinit, horder]
    simp
  · rw [hentered]
    exact h.nodup
  · rw [hentered, hcalls, List.length_set]
    exact h.arrived
  · rw [hreplay]
    refine stands_set hcalls ⟨?_, rfl, .inr hmem⟩ fun i call hne hi => ?_
    · rw [Owns, hlocked, hentered]
      exact howns
    · refine (h.stands i call hi).outside (outside_of_owns h howns hne hi) (fun hi => by rwa [hentered] at hi) fun hi => ?_
      rw [hsaved]
      exact List.mem_append_left _ hi
  · intro e he
    rw [hcache] at he
    refine .inr ⟨j, u, now, d, t.saved, ?_, hsaved, ?_⟩
    · rw [hcalls, List.getElem?_set_self (List.getElem?_eq_some_iff.1 hj).1]
    · rw [replay_set hj hcalls]
      exact h.cached_of_owns howns hj (fun _ => Phase.noConfusion) he

theorem Consistent.leave {a : Except StorageError Config} (h : Consistent initial t)
    (hj : t.calls[j]? = some ⟨task, .leave a⟩) (hcalls : t'.calls = t.calls.set j ⟨task, .done a⟩)
    (hshared : t'.shared = { t.shared with locked := false }) (hentered : t'.entered = t.entered)
    (hsaved : t'.saved = t.saved) : Consistent initial t' := by
  obtain ⟨howns, ha, hmem⟩ := h.stands j _ hj
  have hreplay : t'.replay t'.saved initial = t.replay t.saved initial := by rw [hsaved, replay_set hj hcalls]
  constructor
  · rw [hreplay, hshared]
    exact h.inForce
  · rw [hentered, hsaved]
    exact h.order
  · rw [hentered]
    exact h.nodup
  · rw [hentered, hcalls, List.length_set]
    exact h.arrived
  · rw [hreplay]
    refine stands_set hcalls ⟨⟨_, ha⟩, by rwa [hsaved]⟩ fun i call hne hi => ?_
    exact (h.stands i call hi).outside (outside_of_owns h howns hne hi) (fun hi => by rwa [hentered] at hi)
      fun hi => by rwa [hsaved]
  · rw [hreplay]
    exact h.cached_keep hj (fun _ => Phase.noConfusion) hcalls hsaved (by rw [hshared])

/-- **What a move is**: one step of one call, noted. -/
theorem move?_eq_some (hm : t.move? j = some t') :
    ∃ task phase phase' s', t.calls[j]? = some ⟨task, phase⟩ ∧ Call.step? task phase t.shared = some (phase', s') ∧
      t' = ⟨s', t.calls.set j ⟨task, phase'⟩, t.enteredAfter j phase, t.savedAfter j phase phase'⟩ := by
  unfold move? at hm
  split at hm
  · cases hm
  · next call hj =>
    split at hm
    · cases hm
    · next phase' s' hs =>
      cases hm
      exact ⟨call.task, call.phase, phase', s', hj, hs, rfl⟩

theorem Consistent.move (h : Consistent initial t) (hm : t.move? j = some t') : Consistent initial t' := by
  obtain ⟨task, phase, phase', s', hj, hs, rfl⟩ := move?_eq_some hm
  have hstand := h.stands j _ hj
  cases Call.step_of_step? h.inForce hs with
  | found =>
    exact h.keep hj rfl rfl rfl rfl h.inForce ⟨⟨_, rfl⟩, .inl hstand.2⟩
      (h.cached_keep hj (fun _ => Phase.noConfusion) rfl rfl rfl)
  | missed =>
    exact h.keep hj rfl rfl rfl rfl h.inForce hstand.1 (h.cached_keep hj (fun _ => Phase.noConfusion) rfl rfl rfl)
  | entered hfree => exact h.enter hj hfree rfl rfl rfl rfl
  | foundAgain hcache =>
    obtain ⟨howns, hget⟩ := hstand
    have hd := h.cached_of_owns howns hj (fun _ => Phase.noConfusion) hcache
    exact h.keep hj rfl rfl rfl rfl h.inForce ⟨howns, congrArg Except.ok hd, .inl hget⟩
      (h.cached_keep hj (fun _ => Phase.noConfusion) rfl rfl rfl)
  | missedAgain =>
    obtain ⟨howns, hget⟩ := hstand
    exact h.keep hj rfl rfl rfl rfl h.inForce ⟨howns, .inl hget⟩
      (h.cached_keep hj (fun _ => Phase.noConfusion) rfl rfl rfl)
  | loaded hforce hcache hlocked =>
    obtain ⟨howns, hunsaved⟩ := hstand
    have howns' : Traffic.Owns ⟨s', t.calls.set j ⟨task, task.afterLoad (t.replay t.saved initial)⟩, t.entered, t.saved⟩ j :=
      ⟨hlocked.trans howns.1, howns.2⟩
    refine h.keep hj rfl hlocked rfl rfl hforce ?_ (h.cached_keep hj (fun _ => Phase.noConfusion) rfl rfl hcache)
    cases task with
    | get => exact ⟨howns', rfl, .inl rfl⟩
    | update u now => exact ⟨howns', hunsaved.resolve_left Task.noConfusion, u, now, rfl, rfl⟩
  | saved hforce hcache hlocked => exact h.save hj rfl hforce hcache hlocked rfl rfl
  | filled =>
    obtain ⟨howns, hd, hmem⟩ := hstand
    refine h.keep hj rfl rfl rfl rfl h.inForce ⟨howns, congrArg Except.ok hd, hmem⟩ fun e he => .inl ?_
    cases he
    exact hd
  | left => exact h.leave hj rfl rfl rfl rfl

theorem Consistent.replay_arrive (h : Consistent initial t) (task : Task) {order : List Nat}
    (horder : ∀ k ∈ order, k ∈ t.saved) :
    replay { t with calls := t.calls ++ [task.start] } order initial = t.replay order initial := by
  refine replay_congr (fun k hk => ?_) initial
  unfold update?
  rw [List.getElem?_append_left (h.arrived k (mem_entered_of_mem_saved h (horder k hk)))]

theorem Consistent.arrive (h : Consistent initial t) (task : Task) :
    Consistent initial { t with calls := t.calls ++ [task.start] } := by
  have hreplay := h.replay_arrive task fun _ hk => hk
  constructor
  · rw [hreplay]
    exact h.inForce
  · exact h.order
  · exact h.nodup
  · intro i hi
    rw [List.length_append]
    exact Nat.lt_add_right 1 (h.arrived i hi)
  · rw [hreplay]
    refine forall_call_append ?_ fun i call hi => (h.stands i call hi).congr rfl rfl rfl
    have hnew : t.calls.length ∉ t.entered := fun hmem => Nat.lt_irrefl _ (h.arrived _ hmem)
    cases task with
    | get => exact ⟨hnew, rfl⟩
    | update u now => exact hnew
  · rw [hreplay]
    intro d hd
    refine (h.cached d hd).imp_right fun hpending => ?_
    obtain ⟨i, u, now, c, seen, hi, hseen, hd⟩ := hpending
    have hlt : i < t.calls.length := (List.getElem?_eq_some_iff.1 hi).1
    refine ⟨i, u, now, c, seen, ?_, hseen, hd.trans (h.replay_arrive task fun k hk => ?_).symm⟩
    · rw [List.getElem?_append_left hlt]
      exact hi
    · rw [hseen]
      exact List.mem_append_left _ hk

theorem Consistent.forget (h : Consistent initial t) : Consistent initial { t with shared := t.shared.forget } :=
  ⟨h.inForce, h.order, h.nodup, h.arrived, fun i call hi => (h.stands i call hi).congr rfl rfl rfl,
    fun _ hd => nomatch hd⟩

/-- **Each event keeps a state consistent.** -/
theorem Consistent.step {e : Event} (h : Consistent initial t) (hs : t.step? e = some t') : Consistent initial t' := by
  cases e with
  | arrive task =>
    cases hs
    exact h.arrive task
  | move call => exact h.move hs
  | forget =>
    cases hs
    exact h.forget

theorem Consistent.run : ∀ {events : List Event} {t : Traffic}, Consistent initial t → t.run? events = some t' →
    Consistent initial t'
  | [], _, h, hr => by
    cases hr
    exact h
  | e :: es, t, h, hr => by
    rw [run?] at hr
    split at hr
    · cases hr
    · next hs => exact (h.step hs).run hr

theorem consistent_start {s : Shared} (hforce : s.InForce initial) (hcache : s.cache = none) :
    Consistent initial (start s) := by
  constructor
  · exact hforce
  · rfl
  · exact List.nodup_nil
  · exact fun i hi => nomatch hi
  · exact fun i call hi => nomatch hi
  · intro d hd
    rw [start, hcache] at hd
    cases hd

/-! ## What a reader sees -/

def Returned (t : Traffic) (call : Nat) : Prop := ∃ u now answer, t.calls[call]? = some ⟨.update u now, .done answer⟩

/-- An answer is the configuration after the first of the saved updates, a certain one of them included. -/
def Shows (t : Traffic) (initial : Config) (call : Nat) (answer : Except StorageError Config) : Prop :=
  ∃ seen rest, t.saved = seen ++ rest ∧ call ∈ seen ∧ answer = .ok (t.replay seen initial)

theorem Returned.mem_saved (h : Consistent initial t) (hi : t.Returned i) : i ∈ t.saved := by
  obtain ⟨u, now, answer, hi⟩ := hi
  exact (h.stands i _ hi).2.resolve_left Task.noConfusion

/-- **A cached copy shows every update that has returned**, whether or not another one is about to be cached. -/
theorem Consistent.cached_shows (h : Consistent initial t) (hi : t.Returned i) {d : Config}
    (hcache : t.shared.cache = some d) : t.Shows initial i (.ok d) := by
  have hmem := hi.mem_saved h
  rcases h.cached d hcache with hd | ⟨k, u, now, c, seen, hk, hseen, hd⟩
  · exact ⟨t.saved, [], (List.append_nil _).symm, hmem, congrArg Except.ok hd⟩
  · obtain ⟨v, since, answer, hi⟩ := hi
    rw [hseen, List.mem_append, List.mem_singleton] at hmem
    refine ⟨seen, [k], hseen, hmem.resolve_right fun hik => ?_, congrArg Except.ok hd⟩
    rw [hik, hk] at hi
    cases hi

theorem Shows.keep {answer : Except StorageError Config} (h : t.Shows initial i answer) {more : List Nat}
    (hsaved : t'.saved = t.saved ++ more) (hreplay : ∀ order, (∀ k ∈ order, k ∈ t.saved) →
      t'.replay order initial = t.replay order initial) : t'.Shows initial i answer := by
  obtain ⟨seen, rest, hseen, hmem, hanswer⟩ := h
  refine ⟨seen, rest ++ more, ?_, hmem, ?_⟩
  · rw [hsaved, hseen, List.append_assoc]
  · rw [hreplay seen fun k hk => hseen ▸ List.mem_append_left rest hk]
    exact hanswer

/-- An update that has returned, and what readers that arrived from a certain place on have answered. -/
structure Watched (initial : Config) (i since : Nat) (t : Traffic) : Prop where
  returned : t.Returned i
  shown : ∀ j ≥ since, ∀ answer, t.calls[j]? = some ⟨.get, .done answer⟩ → t.Shows initial i answer

/-- What was saved before an event stays the beginning of what is saved, and makes what it made. -/
theorem Consistent.step_saved {e : Event} (h : Consistent initial t) (hs : t.step? e = some t') :
    ∃ more, t'.saved = t.saved ++ more ∧ ∀ order, (∀ k ∈ order, k ∈ t.saved) →
      t'.replay order initial = t.replay order initial := by
  cases e with
  | arrive task =>
    cases hs
    exact ⟨[], (List.append_nil _).symm, fun _ horder => h.replay_arrive task horder⟩
  | forget =>
    cases hs
    exact ⟨[], (List.append_nil _).symm, fun _ _ => rfl⟩
  | move j =>
    obtain ⟨task, phase, phase', s', hj, -, rfl⟩ := move?_eq_some hs
    have hsaved : ∃ more, t.savedAfter j phase phase' = t.saved ++ more := by
      unfold savedAfter
      split
      · exact ⟨[j], rfl⟩
      · exact ⟨[], (List.append_nil _).symm⟩
    obtain ⟨more, hmore⟩ := hsaved
    exact ⟨more, hmore, fun order _ => replay_set hj rfl order initial⟩

theorem step_done {e : Event} {answer : Except StorageError Config} (hi : t.calls[i]? = some ⟨task, .done answer⟩)
    (hs : t.step? e = some t') : t'.calls[i]? = some ⟨task, .done answer⟩ := by
  cases e with
  | arrive task =>
    cases hs
    rw [List.getElem?_append_left (List.getElem?_eq_some_iff.1 hi).1]
    exact hi
  | forget =>
    cases hs
    exact hi
  | move j =>
    obtain ⟨task, phase, phase', s', hj, hstep, rfl⟩ := move?_eq_some hs
    have hne : j ≠ i := by
      rintro rfl
      rw [hi] at hj
      cases hj
      cases hstep
    rw [List.getElem?_set_ne hne]
    exact hi

/-- **A reader that answers shows the update**, since the answer is what it found in the cache or what is in force. -/
theorem Consistent.shows_of_step {e : Event} (h : Consistent initial t) (hi : t.Returned i)
    (hs : t.step? e = some t') {answer : Except StorageError Config} (hj : t'.calls[j]? = some ⟨.get, .done answer⟩) :
    t.calls[j]? = some ⟨.get, .done answer⟩ ∨ t.Shows initial i answer := by
  cases e with
  | forget =>
    cases hs
    exact .inl hj
  | arrive task =>
    cases hs
    left
    by_cases hlt : j < t.calls.length
    · rwa [List.getElem?_append_left hlt] at hj
    · rw [List.getElem?_append_right (Nat.not_lt.1 hlt), List.getElem?_singleton] at hj
      split at hj
      · cases task <;> cases hj
      · cases hj
  | move k =>
    obtain ⟨task, phase, phase', s', hk, hstep, rfl⟩ := move?_eq_some hs
    rw [List.getElem?_set] at hj
    by_cases hkj : k = j
    · right
      rw [if_pos hkj] at hj
      split at hj
      · cases hj
        cases Call.step_of_step? h.inForce hstep with
        | found hcache => exact h.cached_shows hi hcache
        | left =>
          obtain ⟨-, hanswer, -⟩ := h.stands k _ hk
          exact ⟨t.saved, [], (List.append_nil _).symm, hi.mem_saved h, hanswer⟩
      · cases hj
    · left
      rwa [if_neg hkj] at hj

theorem Watched.step {e : Event} {since : Nat} (hw : Watched initial i since t) (h : Consistent initial t)
    (hs : t.step? e = some t') : Watched initial i since t' := by
  obtain ⟨more, hsaved, hreplay⟩ := h.step_saved hs
  obtain ⟨u, now, a, hi⟩ := hw.returned
  refine ⟨⟨u, now, a, step_done hi hs⟩, fun j hj answer hanswer => ?_⟩
  rcases h.shows_of_step hw.returned hs hanswer with hold | hnew
  · exact (hw.shown j hj answer hold).keep hsaved hreplay
  · exact hnew.keep hsaved hreplay

theorem Watched.run {since : Nat} : ∀ {events : List Event} {t : Traffic}, Watched initial i since t →
    Consistent initial t → t.run? events = some t' → Watched initial i since t'
  | [], _, hw, _, hr => by
    cases hr
    exact hw
  | e :: es, t, hw, h, hr => by
    rw [run?] at hr
    split at hr
    · cases hr
    · next hs => exact (hw.step h hs).run (h.step hs) hr

end Traffic

end ConfigService
