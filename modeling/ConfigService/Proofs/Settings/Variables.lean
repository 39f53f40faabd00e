import Mathlib.Data.List.Forall2
import Mathlib.Logic.Function.Basic
import Mathlib.Tactic.Choose
import ConfigService.Proofs.Config.Acceptance
import ConfigService.Proofs.Settings.Naming
/-!
# Variables — settings depend on what is said of each

A pass over the variables takes no notice of their order: what it makes of a setting is told by the texts of the variables
that name it (`Taken`), of which there may be one at most.  A step of a pass sets one place of the draft or none, and so
this is true of any pass whose entries each set their own place (`Reads`).  The two passes have no setting in common, and
what is left unset in both is standard.
-/
namespace ConfigService

open Setting (ofServer ofService)

namespace Variables

/-! ## One pass -/

section Pass

variable {σ : Type} {entries : List (Entry σ)} {settings : List Setting} {get : σ → (x : Setting) → Option x.Value}
  {x : Setting} {d : σ} {v : Variable} {vars : List Variable}

/-- An entry sets the place of a setting in a draft to what a text spells, and no other place. -/
structure Entry.Sets (get : σ → (x : Setting) → Option x.Value) (e : Entry σ) (x : Setting) : Prop where
  name : e.name = x.name
  isSet : ∀ d, e.isSet d = (get d x).isSome
  set : ∀ d s, (∃ a d', x.Spells s a ∧ e.set d s = .ok d' ∧ get d' = Function.update (get d) x (some a)) ∨
    ∃ fault, e.set d s = .error fault ∧ ∀ a, ¬x.Spells s a

theorem Entry.sets_of_map {e : Entry σ} (put : σ → x.Value → σ) (hname : e.name = x.name)
    (hisSet : ∀ d, e.isSet d = (get d x).isSome) (hset : ∀ d s, e.set d s = (x.read s).map (put d))
    (hput : ∀ d a, get (put d a) = Function.update (get d) x (some a)) : e.Sets get x where
  name := hname
  isSet := hisSet
  set d s := by
    rw [hset]
    cases hread : x.read s with
    | ok a => exact .inl ⟨a, put d a, Setting.read_eq_ok.1 hread, rfl, hput d a⟩
    | error fault =>
      refine .inr ⟨fault, rfl, fun a ha => ?_⟩
      rw [Setting.read_eq_ok.2 ha] at hread
      cases hread

/-- A pass has an entry for each of its settings, and a draft is no more than their places. -/
structure Reads (entries : List (Entry σ)) (settings : List Setting) (get : σ → (x : Setting) → Option x.Value) :
    Prop where
  entries : List.Forall₂ (Entry.Sets get) entries settings
  determined : ∀ d d', (∀ x ∈ settings, get d x = get d' x) → d = d'

theorem find?_entry (h : List.Forall₂ (Entry.Sets get) entries settings) (n : String) :
    (entries.find? (fun e => e.name == n) = none ∧ ∀ x ∈ settings, n ≠ x.name) ∨
      ∃ e x, entries.find? (fun e => e.name == n) = some e ∧ x ∈ settings ∧ n = x.name ∧ e.Sets get x := by
  induction h with
  | nil => exact .inl ⟨rfl, fun x hx => absurd hx List.not_mem_nil⟩
  | @cons e x entries settings hsets _ ih =>
    by_cases hname : e.name = n
    · have hfirst : (e :: entries).find? (fun e => e.name == n) = some e := by
        rw [List.find?_cons_of_pos]
        simpa using hname
      exact .inr ⟨e, x, hfirst, List.mem_cons_self, hname.symm.trans hsets.name, hsets⟩
    · have hnext : (e :: entries).find? (fun e => e.name == n) = entries.find? fun e => e.name == n := by
        rw [List.find?_cons_of_neg]
        simpa using hname
      rw [hnext]
      rcases ih with ⟨hnone, hnames⟩ | ⟨e', y, hfind, hy, hrest⟩
      · refine .inl ⟨hnone, fun y hy => ?_⟩
        rcases List.mem_cons.1 hy with rfl | hy
        · exact fun heq => hname (hsets.name.trans heq.symm)
        · exact hnames y hy
      · exact .inr ⟨e', y, hfind, List.mem_cons_of_mem x hy, hrest⟩

/-- What the place of a setting becomes when its texts are read: it stays, or it was free and there was one text. -/
inductive Taken (x : Setting) : Option x.Value → List String → Option x.Value → Prop
  | kept (before : Option x.Value) : Taken x before [] before
  | set {s : String} {a : x.Value} (spells : x.Spells s a) : Taken x none [s] (some a)

theorem taken_nil {before after : Option x.Value} : Taken x before [] after ↔ after = before := by
  constructor
  · rintro ⟨⟩
    rfl
  · rintro rfl
    exact .kept _

theorem taken_cons {s : String} {texts : List String} {before after : Option x.Value} :
    Taken x before (s :: texts) after ↔ before = none ∧ texts = [] ∧ ∃ a, x.Spells s a ∧ after = some a := by
  constructor
  · rintro ⟨⟩
    exact ⟨rfl, rfl, _, ‹_›, rfl⟩
  · rintro ⟨rfl, rfl, a, hspells, rfl⟩
    exact .set hspells

/-- A first text is read into a free place, and no other after it. -/
theorem taken_cons_iff {s : String} {a : x.Value} {texts : List String} {after : Option x.Value} (h : x.Spells s a) :
    Taken x none (s :: texts) after ↔ Taken x (some a) texts after := by
  rw [taken_cons]
  cases texts with
  | cons t texts => simp [taken_cons]
  | nil =>
    rw [taken_nil]
    constructor
    · rintro ⟨-, -, b, hb, rfl⟩
      rw [hb.unique h]
    · intro hafter
      exact ⟨rfl, rfl, a, h, hafter⟩

theorem exists_taken_iff {texts : List String} :
    (∃ after, Taken x none texts after) ↔ texts.length ≤ 1 ∧ ∀ t ∈ texts, ∃ a, x.Spells t a := by
  cases texts with
  | nil => simp [taken_nil]
  | cons t texts =>
    simp only [taken_cons, List.length_cons, List.forall_mem_cons]
    constructor
    · rintro ⟨-, -, rfl, a, hspells, -⟩
      exact ⟨by simp, ⟨a, hspells⟩, by simp⟩
    · rintro ⟨hlength, ⟨a, hspells⟩, -⟩
      have hnil : texts = [] := List.length_eq_zero_iff.1 (by omega)
      exact ⟨some a, trivial, hnil, a, hspells, rfl⟩

theorem Taken.perm {texts texts' : List String} {after : Option x.Value} (h : Taken x none texts after)
    (hperm : texts.Perm texts') : Taken x none texts' after := by
  cases texts with
  | nil =>
    rw [List.nil_perm.1 hperm]
    exact h
  | cons t texts =>
    obtain ⟨-, rfl, -⟩ := taken_cons.1 h
    rw [← List.singleton_perm.1 hperm]
    exact h

theorem readInto_none (h : entries.find? (fun e => e.name == settingName v.1) = none) :
    readInto entries d (v :: vars) = readInto entries d vars := by
  rw [readInto, h]

/-- **What a pass makes of a draft**: of each setting what its texts say, in whatever order they come. -/
theorem readInto_eq_ok (h : Reads entries settings get) : ∀ (vars : List Variable) {d d' : σ},
    readInto entries d vars = .ok d' ↔ ∀ x ∈ settings, Taken x (get d x) (x.found vars) (get d' x)
  | [], d, d' => by
    rw [readInto, Except.ok.injEq]
    constructor
    · rintro rfl x -
      exact .kept _
    · intro htaken
      exact h.determined d d' fun x hx => (taken_nil.1 (htaken x hx)).symm
  | v :: vars, d, d' => by
    rcases find?_entry h.entries (settingName v.1) with ⟨hnone, hnames⟩ | ⟨e, x, hfind, hx, hname, hsets⟩
    · rw [readInto_none hnone, readInto_eq_ok h vars]
      refine forall₂_congr fun x hx => ?_
      rw [Setting.found_cons_of_ne (hnames x hx)]
    rw [readInto, hfind]
    simp only
    have htexts : x.found (v :: vars) = v.2 :: x.found vars := Setting.found_cons_of_eq hname
    by_cases hset : e.isSet d = true
    · -- a second text for the setting
      rw [if_pos hset]
      constructor
      · intro herror
        cases herror
      · intro htaken
        have hplace := htaken x hx
        rw [hsets.isSet] at hset
        obtain ⟨a, ha⟩ := Option.isSome_iff_exists.1 hset
        rw [ha, htexts, taken_cons] at hplace
        cases hplace.1
    rw [if_neg hset]
    have hfree : get d x = none := by
      rw [hsets.isSet, Bool.not_eq_true, Option.isSome_eq_false_iff, Option.isNone_iff_eq_none] at hset
      exact hset
    rcases hsets.set d v.2 with ⟨a, d₁, hspells, hok, hget⟩ | ⟨fault, hfault, hnot⟩
    · rw [hok]
      simp only
      rw [readInto_eq_ok h vars]
      refine forall₂_congr fun y hy => ?_
      rw [hget]
      by_cases hyx : y = x
      · subst hyx
        rw [Function.update_self, htexts, hfree, taken_cons_iff hspells]
      · have hother : settingName v.1 ≠ y.name := fun heq => hyx (Setting.name_injective (heq.symm.trans hname))
        rw [Function.update_of_ne hyx, Setting.found_cons_of_ne hother]
    · -- a text that spells no value
      rw [hfault]
      constructor
      · intro herror
        cases herror
      · intro htaken
        have hplace := htaken x hx
        rw [htexts, taken_cons] at hplace
        obtain ⟨-, -, a, hspells, -⟩ := hplace
        exact absurd hspells (hnot a)

/-- A pass is the same without variables in which it finds no setting. -/
theorem readInto_filter {f : Variable → Option Variable} {p : Variable → Bool} : ∀ (vars : List Variable) (d : σ),
    (∀ v ∈ vars, p v = false → ∀ w, f v = some w → entries.find? (fun e => e.name == settingName w.1) = none) →
    readInto entries d ((vars.filter p).filterMap f) = readInto entries d (vars.filterMap f)
  | [], _, _ => rfl
  | v :: vars, d, h => by
    have hrest := fun w hw => h w (List.mem_cons_of_mem v hw)
    by_cases hp : p v = true
    · rw [List.filter_cons, if_pos hp]
      cases hv : f v with
      | none => rw [List.filterMap_cons_none hv, List.filterMap_cons_none hv, readInto_filter vars d hrest]
      | some w =>
        rw [List.filterMap_cons_some hv, List.filterMap_cons_some hv, readInto, readInto]
        split
        · exact readInto_filter vars d hrest
        split
        · rfl
        split
        · rfl
        · exact readInto_filter vars _ hrest
    · rw [List.filter_cons, if_neg hp, readInto_filter vars d hrest]
      cases hv : f v with
      | none => rw [List.filterMap_cons_none hv]
      | some w =>
        have hnone := h v List.mem_cons_self (Bool.eq_false_iff.2 hp) w hv
        rw [List.filterMap_cons_some hv, readInto_none hnone]

end Pass

/-! ## The two passes -/

namespace ServerDraft

def get (d : ServerDraft) : (x : Setting) → Option x.Value
  | .host => d.host
  | .port => d.port
  | _ => none

/-- The draft with given values. -/
def collect (said : (x : Setting) → Option x.Value) : ServerDraft := ⟨said .host, said .port⟩

theorem get_collect {x : Setting} (hx : x ∈ ofServer) (said : (x : Setting) → Option x.Value) :
    (collect said).get x = said x := by
  cases x with
  | host => rfl
  | port => rfl
  | _ => exact absurd hx (by simp [ofServer])

end ServerDraft

namespace ServiceDraft

def get (d : ServiceDraft) : (x : Setting) → Option x.Value
  | .seed f => d.seed f
  | .sortKeys => d.sortKeys
  | .logFormat => d.logFormat
  | _ => none

def collect (said : (x : Setting) → Option x.Value) : ServiceDraft :=
  ⟨fun f => said (.seed f), said .sortKeys, said .logFormat⟩

theorem get_collect {x : Setting} (hx : x ∈ ofService) (said : (x : Setting) → Option x.Value) :
    (collect said).get x = said x := by
  cases x with
  | host => exact absurd hx (by decide)
  | port => exact absurd hx (by decide)
  | _ => rfl

end ServiceDraft

theorem reads_server : Reads serverEntries ofServer ServerDraft.get where
  entries := by
    refine .cons ?_ (.cons ?_ .nil)
    · refine Entry.sets_of_map (fun d s => { d with host := some s }) rfl (fun _ => rfl) (fun _ _ => rfl) fun d s => ?_
      funext y
      cases y <;> rfl
    · refine Entry.sets_of_map (fun d n => { d with port := some n }) rfl (fun _ => rfl) (fun d s => ?_) fun d n => ?_
      · have hmap : ∀ r : Except ValueFault Nat, r.map (fun n => { d with port := some (UInt16.ofNat n) }) =
            (r.map fun n => UInt16.ofNat n).map fun n => { d with port := some n } := by
          rintro (fault | n) <;> rfl
        exact hmap _
      · funext y
        cases y <;> rfl
  determined d d' h := by
    have hhost := h .host (by decide)
    have hport := h .port (by decide)
    cases d
    cases d'
    cases hhost
    cases hport
    rfl

theorem reads_service : Reads serviceEntries ofService ServiceDraft.get where
  entries := by
    refine List.rel_append ?_ (.cons ?_ (.cons ?_ .nil))
    · rw [List.forall₂_map_left_iff, List.forall₂_map_right_iff, List.forall₂_same]
      intro f _
      refine Entry.sets_of_map (fun d a => { d with seed := setField d.seed f a }) rfl (fun _ => rfl) (fun _ _ => rfl)
        fun d a => ?_
      funext y
      by_cases hy : y = .seed f
      · subst hy
        rw [Function.update_self]
        exact setField_self d.seed f a
      · rw [Function.update_of_ne hy]
        cases y with
        | seed g => exact setField_of_ne d.seed a fun heq => hy (congrArg Setting.seed heq.symm)
        | _ => rfl
    · refine Entry.sets_of_map (fun d b => { d with sortKeys := some b }) rfl (fun _ => rfl) (fun _ _ => rfl) fun d b => ?_
      funext y
      cases y <;> rfl
    · refine Entry.sets_of_map (fun d s => { d with logFormat := some s }) rfl (fun _ => rfl) (fun _ _ => rfl)
        fun d s => ?_
      funext y
      cases y <;> rfl
  determined d d' h := by
    have hseed : ∀ f, d.seed f = d'.seed f := fun f =>
      h (.seed f) (List.mem_append_left _ (List.mem_map_of_mem f.mem_all))
    have hsortKeys := h .sortKeys (by decide)
    have hlogFormat := h .logFormat (by decide)
    cases d
    cases d'
    cases funext hseed
    cases hsortKeys
    cases hlogFormat
    rfl

end Variables

open Variables

namespace Settings

variable {s : Settings} {vars : List Variable}

/-- The settings that the drafts of both passes make. -/
def ofDrafts (server : ServerDraft) (service : ServiceDraft) : Settings :=
  ⟨server.host.getD standard.host, server.port.getD standard.port,
    fun f => (service.seed f).getD (standard.seed f), service.sortKeys.getD standard.sortKeys,
    service.logFormat.getD standard.logFormat⟩

theorem get_ofDrafts_server (server : ServerDraft) (service : ServiceDraft) {x : Setting} (hx : x ∈ ofServer) :
    x.get (ofDrafts server service) = (server.get x).getD (x.get standard) := by
  cases x with
  | host => rfl
  | port => rfl
  | _ => exact absurd hx (by simp [ofServer])

theorem get_ofDrafts_service (server : ServerDraft) (service : ServiceDraft) {x : Setting} (hx : x ∈ ofService) :
    x.get (ofDrafts server service) = (service.get x).getD (x.get standard) := by
  cases x with
  | host => exact absurd hx (by decide)
  | port => exact absurd hx (by decide)
  | _ => rfl

theorem ofVariables_eq (vars : List Variable) : ofVariables vars =
    match readInto serverEntries (.collect fun _ => none) vars with
    | .error e => .error e
    | .ok server =>
      match readInto serviceEntries (.collect fun _ => none) (marked vars) with
      | .error e => .error e
      | .ok service => .ok (ofDrafts server service) := rfl

theorem ofVariables_eq_ok_iff_drafts : ofVariables vars = .ok s ↔ ∃ server service,
    readInto serverEntries (.collect fun _ => none) vars = .ok server ∧
      readInto serviceEntries (.collect fun _ => none) (marked vars) = .ok service ∧ ofDrafts server service = s := by
  rw [ofVariables_eq]
  cases readInto serverEntries (.collect fun _ => none) vars with
  | error e => simp
  | ok server =>
    cases readInto serviceEntries (.collect fun _ => none) (marked vars) with
    | error e => simp
    | ok service => simp

/-- **What settings variables make**: of each setting what the texts of the variables say that name it, or the standard. -/
theorem ofVariables_eq_ok : ofVariables vars = .ok s ↔
    ∀ x : Setting, ∃ said, Taken x none (x.texts vars) said ∧ x.get s = said.getD (x.get standard) := by
  rw [ofVariables_eq_ok_iff_drafts]
  constructor
  · rintro ⟨server, service, hserver, hservice, rfl⟩ x
    rw [readInto_eq_ok reads_server] at hserver
    rw [readInto_eq_ok reads_service] at hservice
    rcases x.mem_ofServer_or with hx | hx
    · have htaken := hserver x hx
      rw [Setting.found_server hx, ServerDraft.get_collect hx] at htaken
      exact ⟨_, htaken, get_ofDrafts_server server service hx⟩
    · have htaken := hservice x hx
      rw [Setting.found_marked hx, ServiceDraft.get_collect hx] at htaken
      exact ⟨_, htaken, get_ofDrafts_service server service hx⟩
  · intro h
    choose said htaken hget using h
    refine ⟨.collect said, .collect said, ?_, ?_, ?_⟩
    · rw [readInto_eq_ok reads_server]
      intro x hx
      rw [Setting.found_server hx, ServerDraft.get_collect hx, ServerDraft.get_collect hx]
      exact htaken x
    · rw [readInto_eq_ok reads_service]
      intro x hx
      rw [Setting.found_marked hx, ServiceDraft.get_collect hx, ServiceDraft.get_collect hx]
      exact htaken x
    · refine Setting.eq_of_get_eq fun x => ?_
      rw [hget x]
      rcases x.mem_ofServer_or with hx | hx
      · rw [get_ofDrafts_server _ _ hx, ServerDraft.get_collect hx]
      · rw [get_ofDrafts_service _ _ hx, ServiceDraft.get_collect hx]

/-! ## The order and the number of variables -/

theorem ofVariables_perm {vars' : List Variable} (hperm : vars.Perm vars') (h : ofVariables vars = .ok s) :
    ofVariables vars' = .ok s := by
  rw [ofVariables_eq_ok] at h ⊢
  intro x
  obtain ⟨said, htaken, hget⟩ := h x
  exact ⟨said, htaken.perm ((hperm.filter _).map _), hget⟩

/-- Variables that name no setting may be left out, also where there are no settings. -/
theorem ofVariables_filter {p : Variable → Bool} (h : ∀ v ∈ vars, p v = false → ∀ x : Setting, ¬x.NamedBy v.1) :
    ofVariables (vars.filter p) = ofVariables vars := by
  have hserver : readInto serverEntries (.collect fun _ => none) (vars.filter p) =
      readInto serverEntries (.collect fun _ => none) vars := by
    have hfound : ∀ v ∈ vars, p v = false → ∀ w, some v = some w →
        serverEntries.find? (fun e => e.name == settingName w.1) = none := by
      rintro v hv hp w ⟨⟩
      rcases find?_entry reads_server.entries (settingName v.1) with ⟨hnone, -⟩ | ⟨e, x, -, hx, hname, -⟩
      · exact hnone
      · exact absurd ((Setting.namedBy_server hx v.1).2 hname) (h v hv hp x)
    have hskip := readInto_filter vars (ServerDraft.collect fun _ => none) hfound
    rwa [List.filterMap_some, List.filterMap_some] at hskip
  have hservice : readInto serviceEntries (.collect fun _ => none) (marked (vars.filter p)) =
      readInto serviceEntries (.collect fun _ => none) (marked vars) := by
    refine readInto_filter vars _ fun v hv hp w hw => ?_
    rcases find?_entry reads_service.entries (settingName w.1) with ⟨hnone, -⟩ | ⟨e, x, -, hx, hname, -⟩
    · exact hnone
    · refine absurd ((Setting.namedBy_service hx v.1).2 ?_) (h v hv hp x)
      simp only at hw
      split at hw
      · next hmark =>
        cases hw
        exact ⟨hmark, hname⟩
      · cases hw
  rw [ofVariables_eq, ofVariables_eq, hserver, hservice]

theorem exists_ofVariables_iff : (∃ s, ofVariables vars = .ok s) ↔
    ∀ x : Setting, (vars.Pairwise fun v w => ¬(x.NamedBy v.1 ∧ x.NamedBy w.1)) ∧
      ∀ v ∈ vars, x.NamedBy v.1 → ∃ a, x.Spells v.2 a := by
  have htaken : ∀ x : Setting, (∃ said, Taken x none (x.texts vars) said) ↔
      (vars.Pairwise fun v w => ¬(x.NamedBy v.1 ∧ x.NamedBy w.1)) ∧
        ∀ v ∈ vars, x.NamedBy v.1 → ∃ a, x.Spells v.2 a := by
    intro x
    rw [exists_taken_iff, Setting.length_texts_le_one_iff]
    refine and_congr_right fun _ => ?_
    constructor
    · intro h v hv hnamed
      exact h v.2 (Setting.mem_texts_iff.2 ⟨v, hv, hnamed, rfl⟩)
    · intro h t ht
      obtain ⟨v, hv, hnamed, rfl⟩ := Setting.mem_texts_iff.1 ht
      exact h v hv hnamed
  simp only [ofVariables_eq_ok, ← htaken]
  constructor
  · rintro ⟨s, h⟩ x
    obtain ⟨said, hsaid, -⟩ := h x
    exact ⟨said, hsaid⟩
  · intro h
    choose said hsaid using h
    exact ⟨Setting.collect fun x => (said x).getD (x.get standard), fun x => ⟨said x, hsaid x, Setting.get_collect _ x⟩⟩

/-- **Settings depend on what is said of each, and on nothing else.**  Variables make the same settings in any order, and
those that name none make no difference, not even to an error.  There are settings exactly if no setting is named twice
and every text spells a value of the setting that its variable names; each setting is then that value, or the standard
one where no variable names it. -/
theorem ofVariables_exact :
    (∀ vars vars' : List Variable, vars.Perm vars' → ∀ s, ofVariables vars = .ok s ↔ ofVariables vars' = .ok s) ∧
    (∀ (vars : List Variable) (p : Variable → Bool), (∀ v ∈ vars, p v = false → ∀ x : Setting, ¬x.NamedBy v.1) →
      ofVariables (vars.filter p) = ofVariables vars) ∧
    (∀ vars, (∃ s, ofVariables vars = .ok s) ↔
      ∀ x : Setting, (vars.Pairwise fun v w => ¬(x.NamedBy v.1 ∧ x.NamedBy w.1)) ∧
        ∀ v ∈ vars, x.NamedBy v.1 → ∃ a, x.Spells v.2 a) ∧
    ∀ vars s, ofVariables vars = .ok s → ∀ x : Setting,
      (∀ v ∈ vars, x.NamedBy v.1 → x.Spells v.2 (x.get s)) ∧
      ((∀ v ∈ vars, ¬x.NamedBy v.1) → x.get s = x.get standard) := by
  refine ⟨fun vars vars' hperm s => ⟨ofVariables_perm hperm, ofVariables_perm hperm.symm⟩,
    fun vars p h => ofVariables_filter h, fun vars => exists_ofVariables_iff, fun vars s h x => ?_⟩
  obtain ⟨said, htaken, hget⟩ := ofVariables_eq_ok.1 h x
  constructor
  · intro v hv hnamed
    have hmem : v.2 ∈ x.texts vars := Setting.mem_texts_iff.2 ⟨v, hv, hnamed, rfl⟩
    obtain ⟨t, texts, htexts⟩ := List.exists_cons_of_ne_nil (List.ne_nil_of_mem hmem)
    rw [htexts, taken_cons] at htaken
    obtain ⟨-, hnil, a, hspells, hsaid⟩ := htaken
    rw [htexts, hnil, List.mem_singleton] at hmem
    rw [hmem, hget, hsaid]
    exact hspells
  · intro hnone
    have htexts : x.texts vars = [] := by
      refine List.eq_nil_iff_forall_not_mem.2 fun t ht => ?_
      obtain ⟨v, hv, hnamed, -⟩ := Setting.mem_texts_iff.1 ht
      exact hnone v hv hnamed
    rw [htexts, taken_nil] at htaken
    rw [hget, htaken]
    rfl

/-- A port, a flag behind two marks, and a variable that names nothing. -/
def someVariables : List Variable :=
  [("PORT", "+8080"), ("PATH", "/bin"), ("EXPLORER_EXPLORER_Json_Sort_Keys", "false")]

theorem ofVariables_exact_someVariables : ∃ s,
    ofVariables someVariables = .ok s ∧ ofVariables someVariables.reverse = .ok s ∧
    ofVariables (someVariables.filter fun v => v.1 ≠ "PATH") = ofVariables someVariables ∧
    Setting.port.Spells "+8080" s.port ∧ s.host = "0.0.0.0" := by
  have hread : ofVariables someVariables = .ok ⟨"0.0.0.0", 8080, Field.standard, false, "pretty"⟩ := by rfl
  obtain ⟨hperm, hfilter, -, hvalues⟩ := ofVariables_exact
  refine ⟨_, hread, ?_, ?_, ?_, ?_⟩
  · exact (hperm someVariables someVariables.reverse (List.reverse_perm _).symm _).1 hread
  · refine hfilter someVariables _ ?_
    intro v _ hp x
    have hpath : v.1 = "PATH" := by simpa using hp
    rw [hpath]
    cases x with
    | seed f => cases f <;> decide
    | _ => decide
  · exact (hvalues _ _ hread .port).1 ("PORT", "+8080") (by decide) (by decide)
  · exact (hvalues _ _ hread .host).2 (by decide)

end Settings

end ConfigService
