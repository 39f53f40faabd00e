import ConfigService.Proofs.Html.Page
import ConfigService.Proofs.Service.Sequence
import ConfigService.Proofs.Settings.Variables
/-!
# CacheDuration — when a cache duration of zero is handed out

An update must not set the cache duration to zero, and it is refused if it does.  The settings are not asked: a variable
may spell zero, and then the service begins with a configuration whose cache duration is zero.  It hands this out, on pages
too, until an update sets another one.  There is no other way to a zero (`zero_handed_out_exact`), since updates neither
bring one nor bring one back.

What is handed out is what the client reads: the text of an answer, or the text in the script of a page (`HandsOut`).
-/
namespace ConfigService

open Http (Request Response Target)

namespace Page

/-- The path of a page. -/
def path : Page → List Char
  | explore => "/explore".toList
  | dashboardAdmin => "/dashboard-admin".toList

theorem path_inj {p p' : Page} (h : p.path = p'.path) : p = p' := by
  cases p with
  | explore =>
    cases p' with
    | explore => rfl
    | dashboardAdmin => exact absurd h (by decide)
  | dashboardAdmin =>
    cases p' with
    | explore => exact absurd h (by decide)
    | dashboardAdmin => rfl

/-- No page is where the configuration is. -/
theorem path_ne (p : Page) : p.path ≠ "/config".toList := by
  cases p <;> decide

end Page

namespace Service

variable {s : Service} {sortKeys : Bool} {c d : Config} {q : Request} {r : Response} {p : Page}

/-! ## What a response hands out -/

abbrev IsPage (q : Request) (p : Page) : Prop := q.method = "GET" ∧ (Target.read q.target).path = p.path

/-- **A response hands out a configuration**: it is read from the body, or from what the script of a page holds. -/
inductive HandsOut (q : Request) (r : Response) (c : Config) : Prop
  | document (hq : IsGet q ∨ IsPost q) (hstatus : r.status = 200) (hread : Config.read (Text.ofString r.body) = .ok c)
  | script (p : Page) (text : List Char) (hq : IsPage q p) (hstatus : r.status = 200)
      (hbody : r.body = String.ofList (p.head ++ text ++ p.tail)) (hread : Config.read (Text.ofChars text) = .ok c)

theorem not_isPage_of_config (hconfig : (Target.read q.target).path = "/config".toList) : ¬IsPage q p :=
  fun hpage => p.path_ne (hpage.2.symm.trans hconfig)

/-- **A response hands out one configuration at most.** -/
theorem HandsOut.unique (hc : HandsOut q r c) (hd : HandsOut q r d) : c = d := by
  cases hc with
  | document hq _ hread =>
    cases hd with
    | document _ _ hread' => exact Except.ok.inj (hread.symm.trans hread')
    | script p text hpage =>
      refine absurd hpage (not_isPage_of_config ?_)
      exact hq.elim And.right And.right
  | script p text hpage _ hbody hread =>
    cases hd with
    | document hq =>
      refine absurd hpage (not_isPage_of_config ?_)
      exact hq.elim And.right And.right
    | script p' text' hpage' _ hbody' hread' =>
      obtain rfl := Page.path_inj (hpage.2.symm.trans hpage'.2)
      have htext := String.ofList_inj.1 (hbody.symm.trans hbody')
      rw [List.append_left_inj, List.append_right_inj] at htext
      subst htext
      exact Except.ok.inj (hread.symm.trans hread')

theorem dispatch_page (hq : IsPage q p) (now : Timestamp) (s : Service) :
    (dispatch now q s).1 = pageResponse s.sortKeys p s.shared.get.1 := by
  cases p with
  | explore =>
    have hpath : (Target.read q.target).path = Route.explore.path := hq.2
    rw [dispatch_get (.inl hq.1) hpath]
    rfl
  | dashboardAdmin =>
    have hpath : (Target.read q.target).path = Route.dashboardAdmin.path := hq.2
    rw [dispatch_get (.inl hq.1) hpath]
    rfl

/-- **A request for a page** is answered with a page that holds the configuration that is served. -/
theorem handle_page (h : Serves sortKeys c s) (hq : IsPage q p) (reading : Reading) :
    (handle reading q s).1.status = 200 ∧
      (handle reading q s).1.body = String.ofList (p.render (c.text sortKeys).toList) := by
  have hpage : pageResponse sortKeys p (.ok c) = .html 200 (String.ofList (p.render (c.text sortKeys).toList)) := by
    rw [pageResponse, c.encode_eq]
  obtain ⟨hstatus, hbody, -⟩ := handle_eq_dispatch (.inl hq.1) reading s
  rw [hstatus, hbody, dispatch_page hq, h.writes, h.coherent.get.1, hpage]
  exact ⟨rfl, rfl⟩

theorem afterExchange_get (hq : q.method = "GET") (reading : Reading) : afterExchange c ((reading, q), r) = c := by
  refine afterExchange_other (fun hpost => ?_) reading
  rw [hpost.1.1] at hq
  exact absurd hq (by decide)

/-- **What is handed out is the configuration right after the exchange.**  A `GET` for the configuration or a page always
hands one out, and so does a `POST /config` that succeeds. -/
theorem handsOut_handle (h : Serves sortKeys c s) (reading : Reading)
    (hq : IsGet q ∨ (∃ p, IsPage q p) ∨ IsPost q ∧ (handle reading q s).1.status = 200) :
    HandsOut q (handle reading q s).1 (afterExchange c ((reading, q), (handle reading q s).1)) := by
  rcases hq with hq | ⟨p, hq⟩ | ⟨hq, hstatus⟩
  · obtain ⟨hstatus, hbody⟩ := handle_get h hq reading
    rw [afterExchange_get hq.1]
    refine .document (.inl hq) hstatus ?_
    rw [hbody]
    exact c.read_text sortKeys
  · obtain ⟨hstatus, hbody⟩ := handle_page h hq reading
    rw [afterExchange_get hq.1]
    exact .script p _ hq hstatus hbody (Config.read_slashed (Html.slashed_escapeScript _) (c.read_text sortKeys))
  · obtain ⟨u, hu⟩ := (handle_post_status h hq reading).1 hstatus
    rw [afterExchange_post h hq hu]
    refine .document (.inr hq) hstatus ?_
    rw [(handle_post h hq hu reading).2.1]
    exact (c.apply u reading.now).read_text sortKeys

theorem HandsOut.eq_afterExchange (hd : HandsOut q (handle reading q s).1 d) (h : Serves sortKeys c s) :
    d = afterExchange c ((reading, q), (handle reading q s).1) := by
  refine hd.unique (handsOut_handle h reading ?_)
  cases hd with
  | document hq hstatus => exact hq.imp id fun hpost => .inr ⟨hpost, hstatus⟩
  | script p text hq => exact .inr (.inl ⟨p, hq⟩)

/-! ## Where a zero comes from -/

/-- An update was made that carries a cache duration. -/
def SetsCacheDuration (e : Exchange) : Prop :=
  IsPost e.1.2 ∧ e.2.status = 200 ∧ ∃ u, Update.read e.1.2.body = .ok u ∧ u.cacheDuration? ≠ none

/-- **An exchange keeps a zero or ends it**, and never brings one. -/
theorem afterExchange_zero_iff (h : Serves sortKeys c s) (reading : Reading) (q : Request) :
    (afterExchange c ((reading, q), (handle reading q s).1)).value .cacheDuration = (0 : UInt64) ↔
      c.value .cacheDuration = (0 : UInt64) ∧ ¬SetsCacheDuration ((reading, q), (handle reading q s).1) := by
  by_cases hmade : IsPost q ∧ (handle reading q s).1.status = 200
  · obtain ⟨u, hu⟩ := (handle_post_status h hmade.1 reading).1 hmade.2
    have hsets : SetsCacheDuration ((reading, q), (handle reading q s).1) ↔ u.cacheDuration? ≠ none := by
      constructor
      · rintro ⟨-, -, v, hv, hset⟩
        rw [hu.2.2.1] at hv
        cases hv
        exact hset
      · intro hset
        exact ⟨hmade.1, hmade.2, u, hu.2.2.1, hset⟩
    have hvalue : (c.apply u reading.now).value .cacheDuration = u.cacheDuration?.getD (c.value .cacheDuration) := rfl
    rw [afterExchange_post h hmade.1 hu, hsets, hvalue]
    cases hset : u.cacheDuration? with
    | none => exact ⟨fun hzero => ⟨hzero, fun hne => hne rfl⟩, And.left⟩
    | some n =>
      -- the update has been judged, and a zero would not have passed
      have hnot : n ≠ 0 := by
        rintro rfl
        exact cacheDuration?_ne_zero hu.2.2.2 hset
      exact ⟨fun hzero => absurd hzero hnot, fun hzero => absurd (Option.some_ne_none n) hzero.2⟩
  · rw [afterExchange_other hmade]
    exact ⟨fun hzero => ⟨hzero, fun hsets => hmade ⟨hsets.1, hsets.2.1⟩⟩, And.left⟩

theorem afterExchanges_zero_iff : ∀ (requests : List (Reading × Request)) {c : Config} {s : Service},
    Serves sortKeys c s → ((afterExchanges c (exchanges requests s)).value .cacheDuration = (0 : UInt64) ↔
      c.value .cacheDuration = (0 : UInt64) ∧ ∀ e ∈ exchanges requests s, ¬SetsCacheDuration e)
  | [], c, s, _ => by
    have hnone : ∀ e ∈ exchanges [] s, ¬SetsCacheDuration e := fun e he => nomatch he
    exact ⟨fun hzero => ⟨hzero, hnone⟩, And.left⟩
  | (reading, q) :: rest, c, s, h => by
    rw [exchanges_cons, List.forall_mem_cons, ← and_assoc, ← afterExchange_zero_iff h]
    exact afterExchanges_zero_iff rest (serves_handle h reading q)

/-- **A service begins with a zero exactly if a variable spells one.** -/
theorem initialConfig_zero_iff {vars : List Variables.Variable} {settings : Settings}
    (h : Settings.ofVariables vars = .ok settings) :
    settings.initialConfig.value .cacheDuration = (0 : UInt64) ↔
      ∃ v ∈ vars, Setting.NamedBy (.seed .cacheDuration) v.1 ∧ SpellsNumber v.2 0 := by
  obtain ⟨said, htaken, hget⟩ := Settings.ofVariables_eq_ok.1 h (.seed .cacheDuration)
  have hvalue : settings.initialConfig.value .cacheDuration = said.getD (Field.standard .cacheDuration) := hget
  rw [hvalue]
  cases htexts : Setting.texts (.seed .cacheDuration) vars with
  | nil =>
    rw [htexts, Variables.taken_nil] at htaken
    rw [htaken]
    constructor
    · intro hzero
      exact absurd hzero (by decide : (1800 : UInt64) ≠ 0)
    · rintro ⟨v, hv, hnamed, -⟩
      have hmem := Setting.mem_texts_iff.2 ⟨v, hv, hnamed, rfl⟩
      rw [htexts] at hmem
      cases hmem
  | cons t texts =>
    rw [htexts, Variables.taken_cons] at htaken
    obtain ⟨-, rfl, n, hspells, rfl⟩ := htaken
    constructor
    · intro hzero
      replace hzero : n = (0 : UInt64) := hzero
      subst hzero
      have hmem : t ∈ Setting.texts (.seed .cacheDuration) vars := by
        rw [htexts]
        exact List.mem_cons_self
      obtain ⟨v, hv, hnamed, rfl⟩ := Setting.mem_texts_iff.1 hmem
      exact ⟨v, hv, hnamed, hspells⟩
    · rintro ⟨v, hv, hnamed, hzero⟩
      have hmem := Setting.mem_texts_iff.2 ⟨v, hv, hnamed, rfl⟩
      rw [htexts, List.mem_singleton] at hmem
      rw [hmem] at hzero
      have hspellsZero : Setting.Spells (.seed .cacheDuration) t (0 : UInt64) := hzero
      exact hspells.unique hspellsZero

/-- **When a zero is handed out.**  Whatever variables there are settings for, and after any requests to the service with
these settings and an empty repository: a `GET` for the configuration or a page, and a `POST /config` that succeeds, hand
out a configuration; and its cache duration is zero exactly if a variable spells a zero for it and no update so far, one
made by this very request included, has set another. -/
theorem zero_handed_out_exact (vars : List Variables.Variable) (settings : Settings)
    (h : Settings.ofVariables vars = .ok settings) (before : List (Reading × Request)) (reading : Reading)
    (q : Request) :
    let s := (handleAll before (start settings .empty)).2
    let r := (handle reading q s).1
    (IsGet q ∨ (∃ p, IsPage q p) ∨ IsPost q ∧ r.status = 200 → ∃ c, HandsOut q r c) ∧
    ∀ c, HandsOut q r c → (c.value .cacheDuration = (0 : UInt64) ↔
      (∃ v ∈ vars, Setting.NamedBy (.seed .cacheDuration) v.1 ∧ SpellsNumber v.2 0) ∧
      (∀ e ∈ exchanges before (start settings .empty), ¬SetsCacheDuration e) ∧ ¬SetsCacheDuration ((reading, q), r)) := by
  intro s r
  obtain ⟨_, hempty, hholds⟩ := Repository.exists_opened none
  cases hempty
  have hstart : Serves settings.sortKeys settings.initialConfig (start settings .empty) := serves_start settings hholds
  have hserves : Serves settings.sortKeys _ s := serves_handleAll before hstart
  refine ⟨fun hq => ⟨_, handsOut_handle hserves reading hq⟩, fun c hc => ?_⟩
  rw [hc.eq_afterExchange hserves, afterExchange_zero_iff hserves, afterExchanges_zero_iff before hstart,
    initialConfig_zero_iff h, and_assoc]

/-- A variable that spells a zero. -/
def zeroVariable : Variables.Variable := ("EXPLORER_CACHE_DURATION", "0")

theorem exists_ofVariables_zeroVariable : ∃ settings, Settings.ofVariables [zeroVariable] = .ok settings := ⟨_, rfl⟩

theorem zeroVariable_spells :
    ∃ v ∈ [zeroVariable], Setting.NamedBy (.seed .cacheDuration) v.1 ∧ SpellsNumber v.2 0 :=
  ⟨zeroVariable, List.mem_cons_self, by decide, ['0'], .inl rfl, List.cons_ne_nil _ _, List.forall_mem_singleton.2 rfl, rfl⟩

def pageRequest : Request := ⟨"GET", "/explore", [], .ofString ""⟩

theorem zero_handed_out_exact_page : ∃ settings c,
    Settings.ofVariables [zeroVariable] = .ok settings ∧
    HandsOut pageRequest (handle firstReading pageRequest
      (handleAll [(firstReading, configRequest)] (start settings .empty)).2).1 c ∧
    c.value .cacheDuration = (0 : UInt64) := by
  obtain ⟨settings, hsettings⟩ := exists_ofVariables_zeroVariable
  obtain ⟨hexists, hzero⟩ := zero_handed_out_exact [zeroVariable] settings hsettings [(firstReading, configRequest)]
    firstReading pageRequest
  have hpage : IsPage pageRequest .explore := ⟨rfl, by decide⟩
  have hget : "GET" ≠ "POST" := by decide
  obtain ⟨c, hc⟩ := hexists (.inr (.inl ⟨_, hpage⟩))
  refine ⟨settings, c, hsettings, hc, (hzero c hc).2 ⟨zeroVariable_spells, fun e he hsets => ?_, fun hsets => ?_⟩⟩
  · rw [exchanges_cons] at he
    rw [List.mem_singleton.1 he] at hsets
    exact hget hsets.1.1
  · exact hget hsets.1.1

/-- The settings are not asked whether the cache duration is zero. -/
theorem zero_handed_out : ∃ settings c,
    Settings.ofVariables [zeroVariable] = .ok settings ∧
    HandsOut configRequest (handle firstReading configRequest (start settings .empty)).1 c ∧
    c.value .cacheDuration = (0 : UInt64) := by
  obtain ⟨settings, hsettings⟩ := exists_ofVariables_zeroVariable
  obtain ⟨_, hempty, hholds⟩ := Repository.exists_opened none
  cases hempty
  have hstart : Serves settings.sortKeys settings.initialConfig (start settings .empty) := serves_start settings hholds
  have hget : IsGet configRequest := ⟨rfl, by decide⟩
  have hout := handsOut_handle hstart firstReading (.inl hget)
  rw [afterExchange_get hget.1] at hout
  exact ⟨settings, _, hsettings, hout, (initialConfig_zero_iff hsettings).2 zeroVariable_spells⟩

end Service

end ConfigService
