import ConfigService.Proofs.Store.Traffic
import ConfigService.Service.Handle
import ConfigService.Store.Course
/-!
# Course — readers that find nothing in the cache do not load one after another

A reader looks into the cache again when it has the lock, and loads only if it finds nothing (`Guarded.cold`).  So a
loading that succeeds begins with an empty cache, and from its answer on the traffic is warm: the reader is about to cache
what it has loaded, or something is cached.  It stays warm until the cache loses its copy, and a warm traffic has no reader
that loads with success.  Hence there is one such loading for each time the copy is lost, and one more at the start
(`Guarded.count_loaded_le`), whatever the repository does and however many readers wait.
-/
namespace ConfigService

/-! ## A repository that answers in a given way -/

namespace Repository

/-- **A loading may be answered in any way.** -/
theorem exists_load_eq (answer : Except StorageError (Option Config)) : ∃ r : Repository, r.load.1 = answer := by
  cases answer with
  | error e =>
    obtain ⟨reason⟩ := e
    exact ⟨{ empty with loadFault := some reason }, rfl⟩
  | ok stored =>
    obtain ⟨r, -, hr⟩ := exists_opened stored
    exact ⟨r, hr.load.1⟩

/-- **A saving may be answered in any way.** -/
theorem exists_save_eq (answer : Except StorageError Unit) : ∃ r : Repository, ∀ c, (r.save c).1 = answer := by
  cases answer with
  | error e =>
    obtain ⟨reason⟩ := e
    exact ⟨{ empty with saveFault := some reason }, fun c => rfl⟩
  | ok =>
    obtain ⟨r, -, hr⟩ := exists_opened none
    exact ⟨r, fun c => (hr.save c).1⟩

end Repository

namespace Traffic

variable {t t' : Traffic} {i j : Nat} {task : Task} {phase phase' : Phase} {h : Happening} {hs : List Happening}
  {d : Deed} {deeds : List Deed}

/-! ## Inside and outside -/

/-- What holds of a call, whatever the repository does: inside it has the lock, and a reader is loading only where nothing
is cached. -/
structure Guards (t : Traffic) (i : Nat) (call : Call) : Prop where
  owns : ¬Outside call.phase → t.Owns i
  cold : call.task = .get → call.phase = .load → t.shared.cache = none

def Guarded (t : Traffic) : Prop := ∀ i call, t.calls[i]? = some call → t.Guards i call

/-- **There is one call inside at most.** -/
theorem Guarded.eq {a b : Call} (hg : t.Guarded) (hi : t.calls[i]? = some a) (hj : t.calls[j]? = some b)
    (ha : ¬Outside a.phase) (hb : ¬Outside b.phase) : i = j := ((hg i a hi).owns ha).eq ((hg j b hj).owns hb)

/-- A step that neither takes nor gives back the lock nor caches. -/
theorem Guarded.keep (hg : t.Guarded) (hj : t.calls[j]? = some ⟨task, phase⟩)
    (hcalls : t'.calls = t.calls.set j ⟨task, phase'⟩) (hlocked : t'.shared.locked = t.shared.locked)
    (hentered : t'.entered = t.entered) (hcache : t'.shared.cache = t.shared.cache)
    (hin : ¬Outside phase' → ¬Outside phase) (hcold : task = .get → phase' = .load → t.shared.cache = none) :
    t'.Guarded := by
  have howns : ∀ i, t.Owns i → t'.Owns i := fun i hi => by rwa [Owns, hlocked, hentered]
  refine forall_call_set hcalls ⟨fun hin' => ?_, ?_⟩ fun i call _ hi => ⟨fun hin' => ?_, ?_⟩
  · exact howns j ((hg j _ hj).owns (hin hin'))
  · rw [hcache]
    exact hcold
  · exact howns i ((hg i call hi).owns hin')
  · rw [hcache]
    exact (hg i call hi).cold

theorem Guarded.enter (hg : t.Guarded) (hfree : t.shared.locked = false)
    (hcalls : t'.calls = t.calls.set j ⟨task, task.afterEnter⟩) (hshared : t'.shared = { t.shared with locked := true })
    (hentered : t'.entered = t.entered ++ [j]) : t'.Guarded := by
  refine forall_call_set hcalls ⟨fun _ => ?_, ?_⟩ fun i call _ hi => ⟨fun hin => ?_, ?_⟩
  · rw [Owns, hshared, hentered]
    exact ⟨rfl, List.getLast?_concat⟩
  · -- a reader looks again before it loads
    rintro rfl hload
    cases hload
  · have hlocked := ((hg i call hi).owns hin).1
    rw [hfree] at hlocked
    cases hlocked
  · rw [hshared]
    exact (hg i call hi).cold

theorem Guarded.fill {c : Config} (hg : t.Guarded) (hj : t.calls[j]? = some ⟨task, .fill c⟩)
    (hcalls : t'.calls = t.calls.set j ⟨task, .leave (.ok c)⟩) (hshared : t'.shared = t.shared.fill c)
    (hentered : t'.entered = t.entered) : t'.Guarded := by
  have howns : ∀ i, t.Owns i → t'.Owns i := fun i hi => by rwa [Owns, hshared, hentered]
  refine forall_call_set hcalls ⟨fun _ => ?_, fun _ => Phase.noConfusion⟩ fun i call hne hi => ⟨fun hin => ?_, ?_⟩
  · exact howns j ((hg j _ hj).owns id)
  · exact howns i ((hg i call hi).owns hin)
  · -- no other call is inside to load
    intro _ hload
    refine absurd (hg.eq hj hi id ?_) hne
    rw [hload]
    exact id

theorem Guarded.leave {a : Except StorageError Config} (hg : t.Guarded) (hj : t.calls[j]? = some ⟨task, .leave a⟩)
    (hcalls : t'.calls = t.calls.set j ⟨task, .done a⟩) (hshared : t'.shared = { t.shared with locked := false }) :
    t'.Guarded := by
  refine forall_call_set hcalls ⟨fun hin => absurd trivial hin, fun _ => Phase.noConfusion⟩ fun i call hne hi =>
    ⟨fun hin => ?_, ?_⟩
  · exact absurd (hg.eq hj hi id hin) hne
  · rw [hshared]
    exact (hg i call hi).cold

theorem Guarded.move (hg : t.Guarded) (hm : t.move? j = some t') : t'.Guarded := by
  obtain ⟨task, phase, phase', s', hj, hs, rfl⟩ := move?_eq_some hm
  cases Call.made_of_step? hs with
  | found => exact hg.keep hj rfl rfl rfl rfl (fun hin => absurd trivial hin) fun _ => Phase.noConfusion
  | missed => exact hg.keep hj rfl rfl rfl rfl (fun hin => absurd trivial hin) fun _ => Phase.noConfusion
  | entered hfree => exact hg.enter hfree rfl rfl rfl
  | foundAgain => exact hg.keep hj rfl rfl rfl rfl (fun _ => id) fun _ => Phase.noConfusion
  | missedAgain hcache => exact hg.keep hj rfl rfl rfl rfl (fun _ => id) fun _ _ => hcache
  | loaded hload =>
    obtain ⟨hcache, hlocked⟩ := Shared.frame_of_load hload
    refine hg.keep hj rfl hlocked rfl hcache (fun _ => id) ?_
    rintro rfl hnext
    cases hnext
  | unloaded hload =>
    obtain ⟨hcache, hlocked⟩ := Shared.frame_of_load hload
    exact hg.keep hj rfl hlocked rfl hcache (fun _ => id) fun _ => Phase.noConfusion
  | saved hsave =>
    obtain ⟨hcache, hlocked⟩ := Shared.frame_of_save hsave
    exact hg.keep hj rfl hlocked rfl hcache (fun _ => id) fun _ => Phase.noConfusion
  | unsaved hsave =>
    obtain ⟨hcache, hlocked⟩ := Shared.frame_of_save hsave
    exact hg.keep hj rfl hlocked rfl hcache (fun _ => id) fun _ => Phase.noConfusion
  | filled => exact hg.fill hj rfl rfl rfl
  | left => exact hg.leave hj rfl rfl

/-- **Each happening keeps the traffic guarded.** -/
theorem Guarded.meet (hg : t.Guarded) (hm : t.meet? h = some t') : t'.Guarded := by
  cases h with
  | turn r =>
    cases hm
    exact fun i call hi => ⟨(hg i call hi).owns, (hg i call hi).cold⟩
  | event e =>
    cases e with
    | arrive task =>
      cases hm
      refine forall_call_append ?_ fun i call hi => ⟨(hg i call hi).owns, (hg i call hi).cold⟩
      cases task with
      | get => exact ⟨fun hin => absurd trivial hin, fun _ => Phase.noConfusion⟩
      | update u now => exact ⟨fun hin => absurd trivial hin, fun _ => Phase.noConfusion⟩
    | move j => exact hg.move hm
    | forget =>
      cases hm
      exact fun i call hi => ⟨(hg i call hi).owns, fun _ _ => rfl⟩

theorem guarded_start (s : Shared) : (start s).Guarded := fun _ _ hi => nomatch hi

/-! ## Warm traffic -/

/-- Something is cached, or a reader is about to cache what it has loaded. -/
def Warm (t : Traffic) : Prop := t.shared.cache ≠ none ∨ ∃ (i : Nat) (c : Config), t.calls[i]? = some ⟨.get, .fill c⟩

theorem Guarded.not_warm (hg : t.Guarded) (hj : t.calls[j]? = some ⟨.get, .load⟩) : ¬t.Warm := by
  rintro (hcache | ⟨i, c, hi⟩)
  · exact hcache ((hg j _ hj).cold rfl rfl)
  · cases hg.eq hi hj id id
    rw [hi] at hj
    cases hj

theorem cached_step {s s' : Shared} (hmade : Call.Made s task phase phase' s') (hcache : s.cache ≠ none) :
    s'.cache ≠ none := by
  cases hmade with
  | loaded hload => rwa [(Shared.frame_of_load hload).1]
  | unloaded hload => rwa [(Shared.frame_of_load hload).1]
  | saved hsave => rwa [(Shared.frame_of_save hsave).1]
  | unsaved hsave => rwa [(Shared.frame_of_save hsave).1]
  | filled => exact Option.some_ne_none _
  | _ => exact hcache

/-- **What is cached stays until the copy is lost.** -/
theorem cached_meet (hm : t.meet? h = some t') (hkeeps : h.keepsCopy = true) (hcache : t.shared.cache ≠ none) :
    t'.shared.cache ≠ none := by
  cases h with
  | turn r =>
    cases hm
    exact hcache
  | event e =>
    cases e with
    | arrive task =>
      cases hm
      exact hcache
    | move j =>
      obtain ⟨task, phase, phase', s', -, hs, rfl⟩ := move?_eq_some hm
      exact cached_step (Call.made_of_step? hs) hcache
    | forget => cases hkeeps

/-- **Warm traffic stays warm until the copy is lost.** -/
theorem Warm.meet (hw : t.Warm) (hm : t.meet? h = some t') (hkeeps : h.keepsCopy = true) : t'.Warm := by
  rcases hw with hcache | ⟨i, c, hi⟩
  · exact .inl (cached_meet hm hkeeps hcache)
  cases h with
  | turn r =>
    cases hm
    exact .inr ⟨i, c, hi⟩
  | event e =>
    cases e with
    | arrive task =>
      cases hm
      refine .inr ⟨i, c, ?_⟩
      rw [List.getElem?_append_left (List.getElem?_eq_some_iff.1 hi).1]
      exact hi
    | move j =>
      obtain ⟨task, phase, phase', s', hj, hs, rfl⟩ := move?_eq_some hm
      by_cases hji : j = i
      · subst hji
        rw [hi] at hj
        cases hj
        cases hs
        exact .inl (Option.some_ne_none c)
      · refine .inr ⟨i, c, ?_⟩
        rw [List.getElem?_set_ne hji]
        exact hi
    | forget => cases hkeeps

/-! ## What is done -/

/-- **What a deed tells** of the traffic before it and after it. -/
theorem deed_cases (hm : t.meet? h = some t') (hd : t.deed? h = some d) :
    (d = .asked ∧ t.shared.cache = none) ∨
    (d = .loaded ∧ ∃ (j : Nat) (c : Config), t.calls[j]? = some ⟨.get, .load⟩ ∧ t'.calls[j]? = some ⟨.get, .fill c⟩) ∨
    (d = .cached ∧ t'.shared.cache ≠ none) := by
  cases h with
  | turn r => cases hd
  | event e =>
    cases e with
    | arrive task => cases hd
    | forget => cases hd
    | move j =>
      obtain ⟨task, phase, phase', s', hj, hs, rfl⟩ := move?_eq_some hm
      have hlt := (List.getElem?_eq_some_iff.1 hj).1
      have hdeed : task.deed? phase phase' = some d := by
        rw [← hd, deed?, hj]
        simp only [hs]
      cases Call.made_of_step? hs with
      | missedAgain hcache =>
        cases task with
        | get =>
          cases hdeed
          exact .inl ⟨rfl, hcache⟩
        | update u now => cases hdeed
      | loaded =>
        cases task with
        | get =>
          cases hdeed
          exact .inr (.inl ⟨rfl, j, _, hj, List.getElem?_set_self hlt⟩)
        | update u now => cases hdeed
      | filled =>
        refine .inr (.inr ⟨?_, Option.some_ne_none _⟩)
        cases task <;> cases hdeed <;> rfl
      | _ => cases task <;> cases hdeed

theorem exists_of_course_cons (hcourse : t.course? (h :: hs) = some (deeds, t')) :
    ∃ next rest, t.meet? h = some next ∧ next.course? hs = some (rest, t') ∧ deeds = (t.deed? h).toList ++ rest := by
  rw [course?] at hcourse
  split at hcourse
  · cases hcourse
  · next next hm =>
    obtain ⟨⟨rest, last⟩, hrest, heq⟩ := Option.map_eq_some_iff.1 hcourse
    cases heq
    exact ⟨next, rest, hm, hrest, rfl⟩

/-- **Readers load with success once for each time the copy is lost, and once more** if the traffic is not warm yet. -/
theorem Guarded.count_loaded_le : ∀ {hs : List Happening} {t : Traffic} {deeds : List Deed}, t.Guarded →
    t.course? hs = some (deeds, t') →
    deeds.count .loaded ≤ hs.countP (fun h => !h.keepsCopy) + 1 ∧
      (t.Warm → deeds.count .loaded ≤ hs.countP fun h => !h.keepsCopy)
  | [], t, deeds, hg, hcourse => by
    cases hcourse
    exact ⟨Nat.zero_le _, fun _ => Nat.zero_le _⟩
  | h :: hs, t, deeds, hg, hcourse => by
    obtain ⟨next, rest, hm, hrest, rfl⟩ := exists_of_course_cons hcourse
    obtain ⟨hcold, hwarm⟩ := (hg.meet hm).count_loaded_le hrest
    rw [List.count_append, List.countP_cons]
    by_cases hd : t.deed? h = some .loaded
    · -- the traffic was not warm, and now it is
      rcases deed_cases hm hd with ⟨heq, -⟩ | ⟨-, j, c, hj, hj'⟩ | ⟨heq, -⟩
      · cases heq
      · have hnext := hwarm (.inr ⟨j, c, hj'⟩)
        rw [hd, Option.toList_some, List.count_singleton_self]
        exact ⟨by omega, fun hw => absurd hw (hg.not_warm hj)⟩
      · cases heq
    · have hnone : (t.deed? h).toList.count .loaded = 0 := by
        rw [List.count_eq_zero]
        exact fun hmem => hd (Option.mem_toList.1 hmem)
      rw [hnone]
      refine ⟨by omega, fun hw => ?_⟩
      by_cases hkeeps : h.keepsCopy = true
      · have hnext := hwarm (hw.meet hm hkeeps)
        omega
      · rw [Bool.not_eq_true] at hkeeps
        simp only [hkeeps, Bool.not_false, if_true]
        omega

/-- **Where something is cached no reader loads**, until the copy is lost. -/
theorem Guarded.not_load : ∀ {hs : List Happening} {t : Traffic} {deeds : List Deed}, t.Guarded →
    t.shared.cache ≠ none → t.course? hs = some (deeds, t') → (∀ h ∈ hs, h.keepsCopy = true) →
    ∀ d ∈ deeds, d ≠ .asked ∧ d ≠ .loaded
  | [], t, deeds, hg, hcache, hcourse, hkeeps => by
    cases hcourse
    exact fun d hd => absurd hd List.not_mem_nil
  | h :: hs, t, deeds, hg, hcache, hcourse, hkeeps => by
    obtain ⟨next, rest, hm, hrest, rfl⟩ := exists_of_course_cons hcourse
    obtain ⟨hkeep, hkeeps⟩ := List.forall_mem_cons.1 hkeeps
    intro d hd
    rcases List.mem_append.1 hd with hd | hd
    · rcases deed_cases hm (Option.mem_toList.1 hd) with ⟨-, hnone⟩ | ⟨-, j, c, hj, -⟩ | ⟨rfl, -⟩
      · exact absurd hnone hcache
      · exact absurd (.inl hcache) (hg.not_warm hj)
      · decide
    · exact (hg.meet hm).not_load (cached_meet hm hkeep hcache) hrest hkeeps d hd

theorem Guarded.pairwise : ∀ {hs : List Happening} {t : Traffic} {deeds : List Deed}, t.Guarded →
    t.course? hs = some (deeds, t') → (∀ h ∈ hs, h.keepsCopy = true) →
    deeds.Pairwise fun a b => a = .cached → b ≠ .asked ∧ b ≠ .loaded
  | [], t, deeds, hg, hcourse, hkeeps => by
    cases hcourse
    exact .nil
  | h :: hs, t, deeds, hg, hcourse, hkeeps => by
    obtain ⟨next, rest, hm, hrest, rfl⟩ := exists_of_course_cons hcourse
    have hkeeps' := (List.forall_mem_cons.1 hkeeps).2
    have hlater := (hg.meet hm).pairwise hrest hkeeps'
    cases hd : t.deed? h with
    | none => exact hlater
    | some d =>
      refine .cons (fun b hb hcached => ?_) hlater
      rcases deed_cases hm hd with ⟨rfl, -⟩ | ⟨rfl, -⟩ | ⟨-, hcache⟩
      · cases hcached
      · cases hcached
      · exact (hg.meet hm).not_load hcache hrest hkeeps' b hb

/-- **One loading is enough for all readers.**  Any number of calls run at the same time, the repository does as it likes,
and the cache does not lose its copy.  Then in all of the course one reader at most loads with success; and once a
configuration has been cached, by a reader or by an update, no reader begins to load or still loads, however many of them
have found the cache empty before and wait for the lock. -/
theorem one_loading_for_all (settings : Settings) (r : Repository) (hs : List Happening) (deeds : List Deed)
    (t : Traffic) (hcourse : (start (Service.start settings r).shared).course? hs = some (deeds, t))
    (hkeeps : ∀ h ∈ hs, h.keepsCopy = true) :
    deeds.count .loaded ≤ 1 ∧ deeds.Pairwise fun a b => a = .cached → b ≠ .asked ∧ b ≠ .loaded := by
  have hg := guarded_start (Service.start settings r).shared
  have hlost : hs.countP (fun h => !h.keepsCopy) = 0 := by
    rw [List.countP_eq_zero]
    intro h hh
    simp [hkeeps h hh]
  have hcount := (hg.count_loaded_le hcourse).1
  rw [hlost] at hcount
  exact ⟨hcount, hg.pairwise hcourse hkeeps⟩

/-- Three readers find the cache empty before the first of them has the lock; its loading fails, and the repository works
again when the next has the lock. -/
def threeReaders : List Happening :=
  [.event (.arrive .get), .event (.arrive .get), .event (.arrive .get), .event (.move 0), .event (.move 1),
    .event (.move 2), .turn { Repository.empty with loadFault := some "out of reach" }] ++
    List.replicate 4 (.event (.move 0)) ++ .turn .empty :: List.replicate 5 (.event (.move 1)) ++
    List.replicate 3 (.event (.move 2))

theorem one_loading_for_all_threeReaders : ∃ deeds t,
    (start (Service.start .standard .empty).shared).course? threeReaders = some (deeds, t) ∧
    deeds = [.asked, .asked, .loaded, .cached] ∧ t.calls[2]? = some ⟨.get, .done (.ok .standard)⟩ ∧
    deeds.count .loaded ≤ 1 ∧ deeds.Pairwise fun a b => a = .cached → b ≠ .asked ∧ b ≠ .loaded := by
  have hcourse : ∃ t, (start (Service.start .standard .empty).shared).course? threeReaders =
      some ([.asked, .asked, .loaded, .cached], t) ∧ t.calls[2]? = some ⟨.get, .done (.ok .standard)⟩ := ⟨_, rfl, rfl⟩
  obtain ⟨t, hcourse, hanswer⟩ := hcourse
  exact ⟨_, t, hcourse, rfl, hanswer, one_loading_for_all .standard .empty threeReaders _ t hcourse (by decide)⟩

end Traffic

end ConfigService
