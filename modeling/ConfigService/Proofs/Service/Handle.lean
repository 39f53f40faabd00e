import ConfigService.Proofs.Store.Access
import ConfigService.Service.Handle
/-!
# Handle — what a request does to the configuration

A service serves one configuration at a time (`Service.Serves`), and what it answers depends on nothing else
(`handle_alike`).  Only a `POST /config` whose body spells an update that passes changes it; every other request leaves it,
and the stored document too (`handle_other`).
-/
namespace ConfigService

open Http (Request Response Target)

namespace Service

variable {s s₁ s₂ : Service} {sortKeys : Bool} {c : Config} {q : Request} {reading : Reading}

/-! ## Requests for the configuration

What a request is for is told by its method and its path, and not by what the service makes of them. -/

abbrev IsGet (q : Request) : Prop := q.method = "GET" ∧ (Target.read q.target).path = "/config".toList

abbrev IsPost (q : Request) : Prop := q.method = "POST" ∧ (Target.read q.target).path = "/config".toList

/-- **The update that a request may make**: its body is declared as JSON, is not too long, and spells the update, which
passes. -/
def Carries (q : Request) (u : Update) : Prop :=
  Http.declaresJson q.headers = true ∧ q.body.width ≤ bodyLimit ∧ Update.read q.body = .ok u ∧ u.validate = .ok ()

theorem updateOf_eq_ok {u : Update} : updateOf q = .ok u ↔ Carries q u := by
  unfold updateOf Carries
  constructor
  · intro h
    split at h
    · next hjson =>
      split at h
      · next hwidth =>
        split at h
        · cases h
        · next hread =>
          split at h
          · next hvalid =>
            cases h
            exact ⟨hjson, hwidth, hread, hvalid⟩
          · cases h
      · cases h
    · cases h
  · rintro ⟨hjson, hwidth, hread, hvalid⟩
    rw [if_pos hjson, if_pos hwidth, hread]
    simp only [hvalid]

theorem validate_error {u : Update} {e : ConfigError} (h : u.validate = .error e) : ∃ reason, e = .invalidUpdate reason := by
  unfold Update.validate at h
  split at h
  · cases h
  · cases h
    exact ⟨_, rfl⟩

/-- **A request that carries no update is the client's fault.** -/
theorem updateOf_error {response : Response} (h : updateOf q = .error response) :
    response.status ∈ [400, 413, 415, 422] := by
  unfold updateOf at h
  split at h
  · split at h
    · split at h
      · cases h
        unfold bodyFault
        split
        · exact (by decide : 422 ∈ [400, 413, 415, 422])
        · exact (by decide : 400 ∈ [400, 413, 415, 422])
      · split at h
        · cases h
        · next e hvalid =>
          obtain ⟨reason, rfl⟩ := validate_error hvalid
          cases h
          exact (by decide : 400 ∈ [400, 413, 415, 422])
    · cases h
      exact (by decide : 413 ∈ [400, 413, 415, 422])
  · cases h
    exact (by decide : 415 ∈ [400, 413, 415, 422])

/-! ## What is served -/

/-- The service writes in a certain way, and a certain configuration is in force. -/
structure Serves (sortKeys : Bool) (c : Config) (s : Service) : Prop where
  writes : s.sortKeys = sortKeys
  coherent : s.shared.Coherent c

theorem configResponse_ok (sortKeys : Bool) (c : Config) :
    configResponse sortKeys (.ok c) = .json 200 (c.text sortKeys) := by
  have h : c.payload.encode sortKeys = .ok (c.text sortKeys) := c.encode_eq sortKeys
  rw [configResponse, payloadResponse, h]
  rfl

theorem get_alike (h₁ : Serves sortKeys c s₁) (h₂ : Serves sortKeys c s₂) (query : Option (List Char)) (route : Route) :
    (get query route s₁).1 = (get query route s₂).1 := by
  have hwrites : s₁.sortKeys = s₂.sortKeys := h₁.writes.trans h₂.writes.symm
  have hanswer : s₁.shared.get.1 = s₂.shared.get.1 := h₁.coherent.get.1.trans h₂.coherent.get.1.symm
  cases route <;> simp only [get, hwrites, hanswer]

theorem post_alike (h₁ : Serves sortKeys c s₁) (h₂ : Serves sortKeys c s₂) (now : Timestamp) (q : Request) :
    (post now q s₁).1 = (post now q s₂).1 := by
  unfold post
  cases updateOf q with
  | error response => rfl
  | ok u =>
    have hanswer : (s₁.shared.update u now).1 = (s₂.shared.update u now).1 :=
      (h₁.coherent.update u now).1.trans (h₂.coherent.update u now).1.symm
    simp only [h₁.writes, h₂.writes, hanswer]

theorem dispatch_alike (h₁ : Serves sortKeys c s₁) (h₂ : Serves sortKeys c s₂) (now : Timestamp) (q : Request) :
    (dispatch now q s₁).1 = (dispatch now q s₂).1 := by
  unfold dispatch
  simp only
  split
  · rfl
  · split
    · exact get_alike h₁ h₂ _ _
    · split
      · exact post_alike h₁ h₂ now q
      · rfl

/-- **What a service answers depends on the configuration it serves**, and on nothing else in its store. -/
theorem handle_alike (h₁ : Serves sortKeys c s₁) (h₂ : Serves sortKeys c s₂) (reading : Reading) (q : Request) :
    (handle reading q s₁).1 = (handle reading q s₂).1 := by
  unfold handle
  split
  · rfl
  · simp only [dispatch_alike h₁ h₂]

/-! ## What becomes of it -/

theorem dispatch_get {route : Route} (hq : q.method = "GET" ∨ q.method = "HEAD")
    (hpath : (Target.read q.target).path = route.path) (now : Timestamp) (s : Service) :
    dispatch now q s = get (Target.read q.target).query route s := by
  rw [dispatch]
  simp only [Route.ofPath?_eq_some_iff.2 hpath, if_pos hq]

theorem dispatch_post (hq : IsPost q) (now : Timestamp) (s : Service) : dispatch now q s = post now q s := by
  have hroute : Route.ofPath? (Target.read q.target).path = some .config := Route.ofPath?_eq_some_iff.2 hq.2
  rw [dispatch]
  simp only [hroute, hq.1]
  rfl

theorem serves_get (h : Serves sortKeys c s) (query : Option (List Char)) (route : Route) :
    Serves sortKeys c (get query route s).2 ∧
      (get query route s).2.shared.repository.document = s.shared.repository.document := by
  obtain ⟨-, hcoherent, hdocument⟩ := h.coherent.get
  cases route with
  | root => exact ⟨h, rfl⟩
  | review => exact ⟨h, rfl⟩
  | apiDocument => exact ⟨h, rfl⟩
  | _ => exact ⟨⟨h.writes, hcoherent⟩, hdocument⟩

/-- **A request that makes no update** leaves the configuration and its document. -/
theorem serves_dispatch (h : Serves sortKeys c s) (hq : ¬(IsPost q ∧ ∃ u, Carries q u)) (now : Timestamp) :
    Serves sortKeys c (dispatch now q s).2 ∧
      (dispatch now q s).2.shared.repository.document = s.shared.repository.document := by
  unfold dispatch
  simp only
  split
  · exact ⟨h, rfl⟩
  · next route hroute =>
    split
    · exact serves_get h _ _
    · split
      · next hpost =>
        unfold post
        cases hu : updateOf q with
        | error response => exact ⟨h, rfl⟩
        | ok u =>
          obtain ⟨hmethod, rfl⟩ := hpost
          have hpath : (Target.read q.target).path = "/config".toList := Route.ofPath?_eq_some_iff.1 hroute
          exact absurd ⟨⟨hmethod, hpath⟩, u, updateOf_eq_ok.1 hu⟩ hq
      · exact ⟨h, rfl⟩

/-! ## Around the handlers -/

theorem handle_snd (hq : q.method ≠ "OPTIONS") (reading : Reading) (s : Service) :
    (handle reading q s).2 = (dispatch reading.now q s).2 := by
  rw [handle, if_neg hq]

theorem handle_status (hq : q.method ≠ "OPTIONS") (reading : Reading) (s : Service) :
    (handle reading q s).1.status = (dispatch reading.now q s).1.status := by
  rw [handle, if_neg hq]
  by_cases hhead : q.method = "HEAD"
  · simp only [if_pos hhead]
    rfl
  · simp only [if_neg hhead]
    rfl

theorem handle_body (hq : q.method ≠ "OPTIONS") (hhead : q.method ≠ "HEAD") (reading : Reading) (s : Service) :
    (handle reading q s).1.body = (dispatch reading.now q s).1.body := by
  rw [handle, if_neg hq]
  simp only [if_neg hhead]
  rfl

/-- A `GET` or a `POST` is answered as its handler says, but for the headers. -/
theorem handle_eq_dispatch (hq : q.method = "GET" ∨ q.method = "POST") (reading : Reading) (s : Service) :
    (handle reading q s).1.status = (dispatch reading.now q s).1.status ∧
      (handle reading q s).1.body = (dispatch reading.now q s).1.body ∧
      (handle reading q s).2 = (dispatch reading.now q s).2 := by
  have hoptions : q.method ≠ "OPTIONS" := by
    rcases hq with h | h <;> rw [h] <;> decide
  have hhead : q.method ≠ "HEAD" := by
    rcases hq with h | h <;> rw [h] <;> decide
  exact ⟨handle_status hoptions reading s, handle_body hoptions hhead reading s, handle_snd hoptions reading s⟩

/-- **A request that makes no update** leaves the configuration and its document, whatever its method. -/
theorem handle_other (h : Serves sortKeys c s) (hq : ¬(IsPost q ∧ ∃ u, Carries q u)) (reading : Reading) :
    Serves sortKeys c (handle reading q s).2 ∧
      (handle reading q s).2.shared.repository.document = s.shared.repository.document := by
  by_cases hoptions : q.method = "OPTIONS"
  · rw [handle, if_pos hoptions]
    exact ⟨h, rfl⟩
  · rw [handle_snd hoptions]
    exact serves_dispatch h hq reading.now

/-- **A `GET /config`** is answered with the configuration that is served. -/
theorem handle_get (h : Serves sortKeys c s) (hq : IsGet q) (reading : Reading) :
    (handle reading q s).1.status = 200 ∧ (handle reading q s).1.body = c.text sortKeys := by
  have hpath : (Target.read q.target).path = Route.config.path := hq.2
  have hresponse : (dispatch reading.now q s).1 = .json 200 (c.text sortKeys) := by
    rw [dispatch_get (.inl hq.1) hpath, ← configResponse_ok, ← h.writes, ← h.coherent.get.1]
    rfl
  obtain ⟨hstatus, hbody, -⟩ := handle_eq_dispatch (.inl hq.1) reading s
  rw [hstatus, hbody, hresponse]
  exact ⟨rfl, rfl⟩

/-- **A `POST /config` that carries an update** makes it, and is answered with the configuration after it. -/
theorem handle_post (h : Serves sortKeys c s) (hq : IsPost q) {u : Update} (hu : Carries q u) (reading : Reading) :
    (handle reading q s).1.status = 200 ∧ (handle reading q s).1.body = (c.apply u reading.now).text sortKeys ∧
      Serves sortKeys (c.apply u reading.now) (handle reading q s).2 := by
  obtain ⟨hanswer, hcoherent⟩ := h.coherent.update u reading.now
  have hpost : dispatch reading.now q s = (.json 200 ((c.apply u reading.now).text sortKeys),
      { s with shared := (s.shared.update u reading.now).2 }) := by
    rw [dispatch_post hq, post, updateOf_eq_ok.2 hu]
    simp only [hanswer, h.writes, configResponse_ok]
  obtain ⟨hstatus, hbody, hafter⟩ := handle_eq_dispatch (.inr hq.1) reading s
  rw [hstatus, hbody, hafter, hpost]
  exact ⟨rfl, rfl, h.writes, hcoherent⟩

/-- **A `POST /config` that carries none** is refused, as the client's fault. -/
theorem handle_post_refused (hq : IsPost q) (hu : ¬∃ u, Carries q u) (reading : Reading) (s : Service) :
    (handle reading q s).1.status ∈ [400, 413, 415, 422] := by
  rw [(handle_eq_dispatch (.inr hq.1) reading s).1, dispatch_post hq, post]
  cases h : updateOf q with
  | error response => exact updateOf_error h
  | ok u => exact absurd ⟨u, updateOf_eq_ok.1 h⟩ hu

end Service

end ConfigService
