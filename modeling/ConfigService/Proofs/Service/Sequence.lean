import ConfigService.Proofs.Service.Handle
/-!
# Sequence — requests one after another

The configuration that a service serves can be told from the exchanges it has had: it is the first one with the updates of
those `POST /config` that were answered with 200, each at the time of its own.  What a request is answered follows from it
(`Answered`), at every point of every sequence of requests (`answered_in_sequence`).
-/
namespace ConfigService

open Http (Request Response)

namespace Service

abbrev Exchange := (Reading × Request) × Response

/-- A configuration after an exchange: a `POST /config` that was answered with 200 has made the update of its body. -/
def afterExchange (c : Config) (e : Exchange) : Config :=
  if IsPost e.1.2 ∧ e.2.status = 200 then
    match Update.read e.1.2.body with
    | .ok u => c.apply u e.1.1.now
    | .error _ => c
  else c

def afterExchanges (c : Config) (exchanges : List Exchange) : Config := exchanges.foldl afterExchange c

/-- The exchanges of a service that is sent requests one after another. -/
def exchanges (requests : List (Reading × Request)) (s : Service) : List Exchange :=
  requests.zip (handleAll requests s).1

variable {s s₁ s₂ : Service} {sortKeys : Bool} {c : Config} {q : Request} {reading : Reading}

/-! ## One exchange -/

/-- **A `POST /config` is answered with 200 just when it carries an update.** -/
theorem handle_post_status (h : Serves sortKeys c s) (hq : IsPost q) (reading : Reading) :
    (handle reading q s).1.status = 200 ↔ ∃ u, Carries q u := by
  constructor
  · intro hstatus
    by_cases hu : ∃ u, Carries q u
    · exact hu
    · have hrefused := handle_post_refused hq hu reading s
      rw [hstatus] at hrefused
      exact absurd hrefused (by decide)
  · rintro ⟨u, hu⟩
    exact (handle_post h hq hu reading).1

theorem afterExchange_post (h : Serves sortKeys c s) (hq : IsPost q) {u : Update} (hu : Carries q u)
    (reading : Reading) : afterExchange c ((reading, q), (handle reading q s).1) = c.apply u reading.now := by
  unfold afterExchange
  rw [if_pos ⟨hq, (handle_post h hq hu reading).1⟩, hu.2.2.1]

theorem afterExchange_other {response : Response} (hq : ¬(IsPost q ∧ response.status = 200)) (reading : Reading) :
    afterExchange c ((reading, q), response) = c := if_neg hq

/-- **After an exchange** the service serves the configuration that the exchange makes of the one before. -/
theorem serves_handle (h : Serves sortKeys c s) (reading : Reading) (q : Request) :
    Serves sortKeys (afterExchange c ((reading, q), (handle reading q s).1)) (handle reading q s).2 := by
  by_cases hq : IsPost q ∧ ∃ u, Carries q u
  · obtain ⟨hpost, u, hu⟩ := hq
    rw [afterExchange_post h hpost hu]
    exact (handle_post h hpost hu reading).2.2
  · rw [afterExchange_other fun hmade => hq ⟨hmade.1, (handle_post_status h hmade.1 reading).1 hmade.2⟩]
    exact (handle_other h hq reading).1

/-- An update that passes does not carry a zero. -/
theorem cacheDuration?_ne_zero {u : Update} (hu : u.validate = .ok ()) : u.cacheDuration? ≠ some 0 := by
  have hvalid : u.isValid = true := by
    unfold Update.validate at hu
    split at hu
    · next h => exact h
    · cases hu
  exact bne_iff_ne.1 hvalid

/-- An update that passes does not set the cache duration to zero. -/
theorem cacheDuration_apply {u : Update} (hu : u.validate = .ok ()) (hc : c.value .cacheDuration ≠ (0 : UInt64))
    (now : Timestamp) : (c.apply u now).value .cacheDuration ≠ (0 : UInt64) := by
  have hne := cacheDuration?_ne_zero hu
  have happly : (c.apply u now).value .cacheDuration = u.cacheDuration?.getD (c.value .cacheDuration) := rfl
  rw [happly]
  cases hd : u.cacheDuration? with
  | none => exact hc
  | some d =>
    rintro rfl
    exact hne hd

/-! ## Many exchanges -/

theorem handleAll_cons (reading : Reading) (q : Request) (rest : List (Reading × Request)) (s : Service) :
    handleAll ((reading, q) :: rest) s =
      ((handle reading q s).1 :: (handleAll rest (handle reading q s).2).1, (handleAll rest (handle reading q s).2).2) :=
  rfl

theorem exchanges_cons (reading : Reading) (q : Request) (rest : List (Reading × Request)) (s : Service) :
    exchanges ((reading, q) :: rest) s =
      ((reading, q), (handle reading q s).1) :: exchanges rest (handle reading q s).2 := rfl

theorem serves_handleAll : ∀ (requests : List (Reading × Request)) {c : Config} {s : Service}, Serves sortKeys c s →
    Serves sortKeys (afterExchanges c (exchanges requests s)) (handleAll requests s).2
  | [], _, _, h => h
  | (reading, q) :: rest, _, _, h => serves_handleAll rest (serves_handle h reading q)

/-- **Services that serve the same configuration answer alike** from there on. -/
theorem handleAll_alike : ∀ {requests : List (Reading × Request)} {c : Config} {s₁ s₂ : Service},
    Serves sortKeys c s₁ → Serves sortKeys c s₂ → (handleAll requests s₁).1 = (handleAll requests s₂).1
  | [], _, _, _, _, _ => rfl
  | (reading, q) :: _, _, _, _, h₁, h₂ => by
    have hanswer := handle_alike h₁ h₂ reading q
    have h₁' := serves_handle h₁ reading q
    rw [hanswer] at h₁'
    rw [handleAll_cons, handleAll_cons, hanswer, handleAll_alike h₁' (serves_handle h₂ reading q)]

/-! ## At every point -/

/-- What holds of the answer to a request, where a configuration is served. -/
structure Answered (sortKeys : Bool) (c : Config) (s : Service) (reading : Reading) (q : Request) : Prop where
  /-- A `GET /config` is answered with the configuration. -/
  got : IsGet q → (handle reading q s).1.status = 200 ∧ c.encode sortKeys = .ok (handle reading q s).1.body
  /-- A `POST /config` succeeds if and only if it carries an update. -/
  accepted : IsPost q → ((handle reading q s).1.status = 200 ↔ ∃ u, Carries q u)
  /-- A `POST /config` that succeeds is answered with the configuration right after it. -/
  posted : IsPost q → (handle reading q s).1.status = 200 →
    (afterExchange c ((reading, q), (handle reading q s).1)).encode sortKeys = .ok (handle reading q s).1.body
  /-- Every other request leaves the stored document. -/
  document : ¬(IsPost q ∧ (handle reading q s).1.status = 200) →
    (handle reading q s).2.shared.repository.document = s.shared.repository.document
  /-- Every other request leaves all later answers as they would have been without it. -/
  later : ¬(IsPost q ∧ (handle reading q s).1.status = 200) →
    ∀ requests, (handleAll requests (handle reading q s).2).1 = (handleAll requests s).1
  /-- Nor does it matter whether the cache loses its copy. -/
  forgotten : ∀ requests, (handleAll requests { s with shared := s.shared.forget }).1 = (handleAll requests s).1
  /-- No request for the configuration fails inside. -/
  sound : IsGet q ∨ IsPost q → (handle reading q s).1.status ≠ 500
  /-- No request sets a cache duration to zero. -/
  cacheDuration : c.value .cacheDuration ≠ (0 : UInt64) →
    (afterExchange c ((reading, q), (handle reading q s).1)).value .cacheDuration ≠ (0 : UInt64)

theorem answered_of_serves (h : Serves sortKeys c s) (reading : Reading) (q : Request) :
    Answered sortKeys c s reading q := by
  constructor
  · intro hq
    obtain ⟨hstatus, hbody⟩ := handle_get h hq reading
    rw [hbody]
    exact ⟨hstatus, c.encode_eq sortKeys⟩
  · exact fun hq => handle_post_status h hq reading
  · intro hq hstatus
    obtain ⟨u, hu⟩ := (handle_post_status h hq reading).1 hstatus
    rw [afterExchange_post h hq hu, (handle_post h hq hu reading).2.1]
    exact Config.encode_eq sortKeys _
  · intro hq
    exact (handle_other h (fun hmade => hq ⟨hmade.1, (handle_post_status h hmade.1 reading).2 hmade.2⟩) reading).2
  · intro hq requests
    have h' := serves_handle h reading q
    rw [afterExchange_other hq] at h'
    exact handleAll_alike h' h
  · intro requests
    have hforget : Serves sortKeys c { s with shared := s.shared.forget } :=
      ⟨h.writes, h.coherent.1, fun _ hd => nomatch hd⟩
    exact handleAll_alike hforget h
  · rintro (hq | hq)
    · rw [(handle_get h hq reading).1]
      decide
    · by_cases hu : ∃ u, Carries q u
      · rw [(handle_post_status h hq reading).2 hu]
        decide
      · have hrefused := handle_post_refused hq hu reading s
        intro hstatus
        rw [hstatus] at hrefused
        exact absurd hrefused (by decide)
  · intro hc
    by_cases hq : IsPost q ∧ (handle reading q s).1.status = 200
    · obtain ⟨u, hu⟩ := (handle_post_status h hq.1 reading).1 hq.2
      rw [afterExchange_post h hq.1 hu]
      exact cacheDuration_apply hu.2.2.2 hc reading.now
    · rw [afterExchange_other hq]
      exact hc

theorem serves_start (settings : Settings) {stored : Option Config} {r : Repository} (hr : r.Holds stored) :
    Serves settings.sortKeys (stored.getD settings.initialConfig) (start settings r) := by
  refine ⟨rfl, ⟨stored, hr, rfl⟩, fun d hd => ?_⟩
  cases hd

/-- **At every point of every sequence of requests** the next request is answered as befits the configuration that the
exchanges so far have made of the first one. -/
theorem answered_in_sequence (settings : Settings) (stored : Option Config) :
    ∃ r, Repository.opened stored = .ok r ∧ ∀ before reading q,
      Answered settings.sortKeys
        (afterExchanges (stored.getD settings.initialConfig) (exchanges before (start settings r)))
        (handleAll before (start settings r)).2 reading q := by
  obtain ⟨r, hopened, hr⟩ := Repository.exists_opened stored
  exact ⟨r, hopened, fun before reading q => answered_of_serves (serves_handleAll before (serves_start settings hr)) reading q⟩

def firstReading : Reading := ⟨.epoch, 0⟩

/-- A second later. -/
def nextReading : Reading := ⟨⟨Moment.epoch.next, by decide⟩, 0⟩

def configRequest : Request := ⟨"GET", "/config", [], .ofString ""⟩

/-- A request to set the cache duration and nothing else. -/
def durationRequest (seconds : Nat) : Request :=
  ⟨"POST", "/config", [("content-type", "application/json")],
    .ofString ("\x7b\"cache_duration\":" ++ toString seconds ++ "\x7d")⟩

theorem carries_minute : Carries (durationRequest 60) (.ofCacheDuration 60) := by
  -- the reader puts an update together in its own way, so the two are compared field by field
  have hread : ∃ u, Update.read (durationRequest 60).body = .ok u ∧
      ∀ f, u.value f = (Update.ofCacheDuration 60).value f := by
    refine ⟨_, rfl, fun f => ?_⟩
    cases f <;> rfl
  obtain ⟨u, hread, hvalue⟩ := hread
  obtain rfl : u = .ofCacheDuration 60 := Update.ext hvalue
  exact ⟨by decide, by decide, hread, rfl⟩

theorem not_carries_zero : ¬∃ u, Carries (durationRequest 0) u := by
  rintro ⟨u, -, -, hread, hvalid⟩
  have hzero : (Update.read (durationRequest 0).body).map Update.cacheDuration? = .ok (some 0) := rfl
  rw [hread] at hzero
  exact cacheDuration?_ne_zero hvalid (Except.ok.inj hzero)

/-- The cache duration is set to a minute; setting it to zero is refused; then the configuration is asked for. -/
theorem answered_in_sequence_durations : ∃ r body, Repository.opened none = .ok r ∧
    (Config.standard.apply (.ofCacheDuration 60) firstReading.now).encode true = .ok body ∧
    let made := handle firstReading (durationRequest 60) (start .standard r)
    let refused := handle nextReading (durationRequest 0) made.2
    let got := handle nextReading configRequest refused.2
    made.1.status = 200 ∧ made.1.body = body ∧ refused.1.status ≠ 200 ∧ got.1.status = 200 ∧ got.1.body = body := by
  obtain ⟨r, hopened, hanswered⟩ := answered_in_sequence .standard none
  have hpath : (Http.Target.read "/config").path = "/config".toList := by decide
  have hfirst := hanswered [] firstReading (durationRequest 60)
  have hmade := (hfirst.accepted ⟨rfl, hpath⟩).2 ⟨_, carries_minute⟩
  have hnext := hanswered [(firstReading, durationRequest 60)] nextReading (durationRequest 0)
  have hrefused : (handle nextReading (durationRequest 0)
      (handle firstReading (durationRequest 60) (start .standard r)).2).1.status ≠ 200 :=
    fun hstatus => not_carries_zero ((hnext.accepted ⟨rfl, hpath⟩).1 hstatus)
  have hlast := hanswered [(firstReading, durationRequest 60), (nextReading, durationRequest 0)] nextReading configRequest
  obtain ⟨hgot, hbody⟩ := hlast.got ⟨rfl, hpath⟩
  have hposted := hfirst.posted ⟨rfl, hpath⟩ hmade
  rw [exchanges_cons, exchanges_cons, afterExchanges, List.foldl_cons, List.foldl_cons,
    afterExchange_other fun h => hrefused h.2] at hbody
  have hsame := Except.ok.inj (hposted.symm.trans hbody)
  refine ⟨r, _, hopened, ?_, hmade, rfl, hrefused, hgot, hsame.symm⟩
  rw [afterExchange, if_pos ⟨⟨rfl, hpath⟩, hmade⟩, carries_minute.2.2.1] at hposted
  exact hposted

end Service

end ConfigService
